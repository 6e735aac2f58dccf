import BuildIntake.Text.StepTable

/-!
# Combining marks

The characters that attach to the one before them, and the classes that order several of them.
-/

namespace BuildIntake.Text

/-- Marks: `n` takes no room of its own, `s` does; all else is `o`. -/
def markTable : StepTable := .ofLines
  ["0o 300n 371o 483n 48Bo 591n 5BEo 5BFn 5C0o 5C1n 5C3o 5C4n 5C6o 5C7n 5D0o 610n 61Bo 64Bn",
    "660o 670n 671o 6D6n 6DEo 6DFn 6E5o 6E7n 6E9o 6EAn 6EEo 711n 712o 730n 74Do 7A6n 7B1o 7EBn",
    "7F4o 7FDn 7FEo 816n 81Ao 81Bn 824o 825n 828o 829n 830o 859n 85Eo 898n 8A0o 8CAn 903s 904o",
    "93An 93Bs 93Cn 93Do 93Es 941n 949s 94Dn 94Es 950o 951n 960o 962n 964o 981n 982s 985o 9BCn",
    "9BDo 9BEs 9C1n 9C7s 9CDn 9CEo 9D7s 9E0o 9E2n 9E6o 9FEn A03s A05o A3Cn A3Es A41n A5Co A70n",
    "A72o A75n A76o A81n A83s A85o ABCn ABDo ABEs AC1n AC9s ACDn AD0o AE2n AE6o AFAn B02s B05o",
    "B3Cn B3Do B3Es B3Fn B40s B41n B47s B4Dn B57s B5Fo B62n B66o B82n B83o BBEs BC0n BC1s BCDn",
    "BD0o BD7s BE6o C00n C01s C04n C05o C3Cn C3Do C3En C41s C46n C58o C62n C66o C81n C82s C84o",
    "CBCn CBDo CBEs CCCn CD5s CDCo CE2n CE6o CF3s D00n D02s D04o D3Bn D3Do D3Es D41n D46s D4Dn",
    "D4Eo D57s D58o D62n D66o D81n D82s D85o DCAn DCFs DD2n DD8s DE6o DF2s DF4o E31n E32o E34n",
    "E3Fo E47n E4Fo EB1n EB2o EB4n EBDo EC8n ED0o F18n F1Ao F35n F36o F37n F38o F39n F3Ao F3Es",
    "F40o F71n F7Fs F80n F85o F86n F88o F8Dn FBEo FC6n FC7o 102Bs 102Dn 1031s 1032n 1038s 1039n",
    "103Bs 103Dn 103Fo 1056s 1058n 105Ao 105En 1061o 1062s 1065o 1067s 106Eo 1071n 1075o 1082n",
    "1083s 1085n 1087s 108Dn 108Eo 108Fs 1090o 109As 109Dn 109Eo 135Dn 1360o 1712n 1715s 171Fo",
    "1732n 1734s 1735o 1752n 1760o 1772n 1780o 17B6s 17B7n 17BEs 17C6n 17C7s 17C9n 17D4o 17DDn",
    "17E0o 1885n 1887o 18A9n 18AAo 1920n 1923s 1927n 1929s 1932n 1933s 1939n 1940o 1A17n 1A19s",
    "1A1Bn 1A1Eo 1A55s 1A56n 1A57s 1A58n 1A61s 1A62n 1A63s 1A65n 1A6Ds 1A73n 1A80o 1AB0n 1ACFo",
    "1B00n 1B04s 1B05o 1B34n 1B35s 1B36n 1B3Bs 1B3Cn 1B3Ds 1B42n 1B43s 1B45o 1B6Bn 1B74o 1B80n",
    "1B82s 1B83o 1BA1s 1BA2n 1BA6s 1BA8n 1BAAs 1BABn 1BAEo 1BE6n 1BE7s 1BE8n 1BEAs 1BEDn 1BEEs",
    "1BEFn 1BF2s 1BFCo 1C24s 1C2Cn 1C34s 1C36n 1C3Bo 1CD0n 1CD3o 1CD4n 1CE1s 1CE2n 1CE9o 1CEDn",
    "1CEEo 1CF4n 1CF5o 1CF7s 1CF8n 1CFAo 1DC0n 1E01o 20D0n 2104o 2CEFn 2CF3o 2D7Fn 2D80o 2DE0n",
    "2E00o 302An 302Es 3030o 3099n 309Do A66Fn A673o A674n A67Eo A69En A6A0o A6F0n A6F2o A802n",
    "A803o A806n A807o A80Bn A80Co A823s A825n A827s A828o A82Cn A830o A880s A882o A8B4s A8C4n",
    "A8CEo A8E0n A8F2o A8FFn A900o A926n A92Eo A947n A952s A95Fo A980n A983s A984o A9B3n A9B4s",
    "A9B6n A9BAs A9BCn A9BEs A9C1o A9E5n A9E6o AA29n AA2Fs AA31n AA33s AA35n AA40o AA43n AA44o",
    "AA4Cn AA4Ds AA50o AA7Bs AA7Cn AA7Ds AA7Eo AAB0n AAB1o AAB2n AAB5o AAB7n AAB9o AABEn AAC0o",
    "AAC1n AAC2o AAEBs AAECn AAEEs AAF0o AAF5s AAF6n AB01o ABE3s ABE5n ABE6s ABE8n ABE9s ABEBo",
    "ABECs ABEDn ABF0o FB1En FBB2o FE20n FE45o 101FDn 10280o 102E0n 102E1o 10376n 10380o 10A01n",
    "10A10o 10A38n 10A40o 10AE5n 10AEBo 10D24n 10D30o 10EABn 10EADo 10EFDn 10F00o 10F46n 10F51o",
    "10F82n 10F86o 11000s 11001n 11002s 11003o 11038n 11047o 11070n 11071o 11073n 11075o 1107Fn",
    "11082s 11083o 110B0s 110B3n 110B7s 110B9n 110BBo 110C2n 110D0o 11100n 11103o 11127n 1112Cs",
    "1112Dn 11136o 11145s 11147o 11173n 11174o 11180n 11182s 11183o 111B3s 111B6n 111BFs 111C1o",
    "111C9n 111CDo 111CEs 111CFn 111D0o 1122Cs 1122Fn 11232s 11234n 11235s 11236n 11238o 1123En",
    "1123Fo 11241n 11280o 112DFn 112E0s 112E3n 112F0o 11300n 11302s 11305o 1133Bn 1133Do 1133Es",
    "11340n 11341s 11350o 11357s 1135Do 11362s 11366n 11380o 11435s 11438n 11440s 11442n 11445s",
    "11446n 11447o 1145En 1145Fo 114B0s 114B3n 114B9s 114BAn 114BBs 114BFn 114C1s 114C2n 114C4o",
    "115AFs 115B2n 115B8s 115BCn 115BEs 115BFn 115C1o 115DCn 11600o 11630s 11633n 1163Bs 1163Dn",
    "1163Es 1163Fn 11641o 116ABn 116ACs 116ADn 116AEs 116B0n 116B6s 116B7n 116B8o 1171Dn 11720s",
    "11722n 11726s 11727n 11730o 1182Cs 1182Fn 11838s 11839n 1183Bo 11930s 1193Bn 1193Ds 1193En",
    "1193Fo 11940s 11941o 11942s 11943n 11944o 119D1s 119D4n 119DCs 119E0n 119E1o 119E4s 11A00o",
    "11A01n 11A07s 11A09n 11A0Bo 11A33n 11A39s 11A3Ao 11A3Bn 11A3Fo 11A47n 11A50o 11A51n 11A57s",
    "11A59n 11A5Co 11A8An 11A97s 11A98n 11A9Ao 11C2Fs 11C30n 11C3Es 11C40o 11C92n 11CA9s 11CAAn",
    "11CB1s 11CB2n 11CB4s 11CB5n 11D00o 11D31n 11D46o 11D47n 11D50o 11D8As 11D90n 11D93s 11D95n",
    "11D96s 11D97n 11D98o 11EF3n 11EF5s 11EF7o 11F00n 11F02o 11F03s 11F04o 11F34s 11F36n 11F3Es",
    "11F40n 11F41s 11F42n 11F43o 13440n 13441o 13447n 13460o 16AF0n 16AF5o 16B30n 16B37o 16F4Fn",
    "16F50o 16F51s 16F8Fn 16F93o 16FE4n 16FF0s 16FF2o 1BC9Dn 1BC9Fo 1CF00n 1CF50o 1D165s 1D167n",
    "1D16Ao 1D16Ds 1D17Bn 1D183o 1D185n 1D18Co 1D1AAn 1D1AEo 1D242n 1D245o 1DA00n 1DA37o 1DA3Bn",
    "1DA6Do 1DA75n 1DA76o 1DA84n 1DA85o 1DA9Bn 1DF00o 1E000n 1E100o 1E130n 1E137o 1E2AEn 1E2C0o",
    "1E2ECn 1E2F0o 1E4ECn 1E4F0o 1E8D0n 1E922o 1E944n 1E94Bo"]

def isMark (c : Char) : Bool := markTable.markOf 'o' c != 'o'

def isNonspacing (c : Char) : Bool := markTable.markOf 'o' c == 'n'

/-- The canonical combining classes. -/
def combiningTable : StepTable := .ofLines
  ["0c0 300cE6 315cE8 316cDC 31AcE8 31BcD8 31CcDC 321cCA 323cDC 327cCA 329cDC 334c1 339cDC",
    "33DcE6 347cDC 34AcE6 34DcDC 350cE6 353cDC 357cE6 358cE8 359cDC 35BcE6 35CcE9 35DcEA 35FcE9",
    "360cEA 362cE9 363cE6 371c0 483cE6 488c0 591cDC 592cE6 596cDC 597cE6 59AcDE 59BcDC 59CcE6",
    "5A2cDC 5A8cE6 5AAcDC 5ABcE6 5ADcDE 5AEcE4 5AFcE6 5B0cA 5B1cB 5B2cC 5B3cD 5B4cE 5B5cF 5B6c10",
    "5B7c11 5B8c12 5B9c13 5BBc14 5BCc15 5BDc16 5BEc0 5BFc17 5C0c0 5C1c18 5C2c19 5C3c0 5C4cE6",
    "5C5cDC 5C6c0 5C7c12 5D0c0 610cE6 618c1E 619c1F 61Ac20 61Bc0 64Bc1B 64Cc1C 64Dc1D 64Ec1E",
    "64Fc1F 650c20 651c21 652c22 653cE6 655cDC 657cE6 65CcDC 65DcE6 65FcDC 660c0 670c23 671c0",
    "6D6cE6 6DEc0 6DFcE6 6E3cDC 6E4cE6 6E5c0 6E7cE6 6E9c0 6EAcDC 6EBcE6 6EDcDC 6EEc0 711c24",
    "712c0 730cE6 731cDC 732cE6 734cDC 735cE6 737cDC 73AcE6 73BcDC 73DcE6 73EcDC 73FcE6 742cDC",
    "743cE6 744cDC 745cE6 746cDC 747cE6 748cDC 749cE6 74Dc0 7EBcE6 7F2cDC 7F3cE6 7F4c0 7FDcDC",
    "7FEc0 816cE6 81Ac0 81BcE6 824c0 825cE6 828c0 829cE6 830c0 859cDC 85Ec0 898cE6 899cDC 89CcE6",
    "8A0c0 8CAcE6 8CFcDC 8D4cE6 8E3cDC 8E4cE6 8E6cDC 8E7cE6 8E9cDC 8EAcE6 8EDcDC 8F0c1B 8F1c1C",
    "8F2c1D 8F3cE6 8F6cDC 8F7cE6 8F9cDC 8FBcE6 900c0 93Cc7 93Dc0 94Dc9 94Ec0 951cE6 952cDC",
    "953cE6 955c0 9BCc7 9BDc0 9CDc9 9CEc0 9FEcE6 A01c0 A3Cc7 A3Ec0 A4Dc9 A51c0 ABCc7 ABDc0 ACDc9",
    "AD0c0 B3Cc7 B3Dc0 B4Dc9 B55c0 BCDc9 BD0c0 C3Cc7 C3Dc0 C4Dc9 C55c54 C56c5B C58c0 CBCc7 CBDc0",
    "CCDc9 CD5c0 D3Bc9 D3Dc0 D4Dc9 D4Ec0 DCAc9 DCFc0 E38c67 E3Ac9 E3Fc0 E48c6B E4Cc0 EB8c76",
    "EBAc9 EBBc0 EC8c7A ECCc0 F18cDC F1Ac0 F35cDC F36c0 F37cDC F38c0 F39cD8 F3Ac0 F71c81 F72c82",
    "F74c84 F7Ac82 F7Ec0 F80c82 F82cE6 F84c9 F85c0 F86cE6 F88c0 FC6cDC FC7c0 1037c7 1038c0",
    "1039c9 103Bc0 108DcDC 108Ec0 135DcE6 1360c0 1714c9 171Fc0 1734c9 1735c0 17D2c9 17D3c0",
    "17DDcE6 17E0c0 18A9cE4 18AAc0 1939cDE 193AcE6 193BcDC 1940c0 1A17cE6 1A18cDC 1A19c0 1A60c9",
    "1A61c0 1A75cE6 1A7FcDC 1A80c0 1AB0cE6 1AB5cDC 1ABBcE6 1ABDcDC 1ABEc0 1ABFcDC 1AC1cE6",
    "1AC3cDC 1AC5cE6 1ACAcDC 1ACBcE6 1ACFc0 1B34c7 1B35c0 1B44c9 1B45c0 1B6BcE6 1B6CcDC 1B6DcE6",
    "1B74c0 1BAAc9 1BACc0 1BE6c7 1BE7c0 1BF2c9 1BFCc0 1C37c7 1C3Bc0 1CD0cE6 1CD3c0 1CD4c1",
    "1CD5cDC 1CDAcE6 1CDCcDC 1CE0cE6 1CE1c0 1CE2c1 1CE9c0 1CEDcDC 1CEEc0 1CF4cE6 1CF5c0 1CF8cE6",
    "1CFAc0 1DC0cE6 1DC2cDC 1DC3cE6 1DCAcDC 1DCBcE6 1DCDcEA 1DCEcD6 1DCFcDC 1DD0cCA 1DD1cE6",
    "1DF6cE8 1DF7cE4 1DF9cDC 1DFAcDA 1DFBcE6 1DFCcE9 1DFDcDC 1DFEcE6 1DFFcDC 1E01c0 20D0cE6",
    "20D2c1 20D4cE6 20D8c1 20DBcE6 20DDc0 20E1cE6 20E2c0 20E5c1 20E7cE6 20E8cDC 20E9cE6 20EAc1",
    "20ECcDC 20F0cE6 2104c0 2CEFcE6 2CF3c0 2D7Fc9 2D80c0 2DE0cE6 2E00c0 302AcDA 302BcE4 302CcE8",
    "302DcDE 302EcE0 3030c0 3099c8 309Dc0 A66FcE6 A670c0 A674cE6 A67Ec0 A69EcE6 A6A0c0 A6F0cE6",
    "A6F2c0 A806c9 A807c0 A82Cc9 A830c0 A8C4c9 A8C5c0 A8E0cE6 A8F2c0 A92BcDC A92Ec0 A953c9",
    "A95Fc0 A9B3c7 A9B4c0 A9C0c9 A9C1c0 AAB0cE6 AAB1c0 AAB2cE6 AAB4cDC AAB5c0 AAB7cE6 AAB9c0",
    "AABEcE6 AAC0c0 AAC1cE6 AAC2c0 AAF6c9 AB01c0 ABEDc9 ABF0c0 FB1Ec1A FBB2c0 FE20cE6 FE27cDC",
    "FE2EcE6 FE45c0 101FDcDC 10280c0 102E0cDC 102E1c0 10376cE6 10380c0 10A0DcDC 10A0Ec0 10A0FcE6",
    "10A10c0 10A38cE6 10A39c1 10A3AcDC 10A3Fc9 10A40c0 10AE5cE6 10AE6cDC 10AEBc0 10D24cE6",
    "10D30c0 10EABcE6 10EADc0 10EFDcDC 10F00c0 10F46cDC 10F48cE6 10F4BcDC 10F4CcE6 10F4DcDC",
    "10F51c0 10F82cE6 10F83cDC 10F84cE6 10F85cDC 10F86c0 11046c9 11047c0 11070c9 11071c0 1107Fc9",
    "11080c0 110B9c9 110BAc7 110BBc0 11100cE6 11103c0 11133c9 11136c0 11173c7 11174c0 111C0c9",
    "111C1c0 111CAc7 111CBc0 11235c9 11236c7 11237c0 112E9c7 112EAc9 112F0c0 1133Bc7 1133Dc0",
    "1134Dc9 11350c0 11366cE6 11380c0 11442c9 11443c0 11446c7 11447c0 1145EcE6 1145Fc0 114C2c9",
    "114C3c7 114C4c0 115BFc9 115C0c7 115C1c0 1163Fc9 11640c0 116B6c9 116B7c7 116B8c0 1172Bc9",
    "11730c0 11839c9 1183Ac7 1183Bc0 1193Dc9 1193Fc0 11943c7 11944c0 119E0c9 119E1c0 11A34c9",
    "11A35c0 11A47c9 11A50c0 11A99c9 11A9Ac0 11C3Fc9 11C40c0 11D42c7 11D43c0 11D44c9 11D46c0",
    "11D97c9 11D98c0 11F41c9 11F43c0 16AF0c1 16AF5c0 16B30cE6 16B37c0 16FF0c6 16FF2c0 1BC9Ec1",
    "1BC9Fc0 1D165cD8 1D167c1 1D16Ac0 1D16DcE2 1D16EcD8 1D17BcDC 1D183c0 1D185cE6 1D18AcDC",
    "1D18Cc0 1D1AAcE6 1D1AEc0 1D242cE6 1D245c0 1E000cE6 1E100c0 1E130cE6 1E137c0 1E2AEcE6",
    "1E2C0c0 1E2ECcE6 1E2F0c0 1E4ECcE8 1E4EEcDC 1E4EFcE6 1E4F0c0 1E8D0cDC 1E922c0 1E944cE6",
    "1E94Ac7 1E94Bc0"]

def combiningClass (c : Char) : Nat :=
  ((combiningTable.find ⟨0, 'c', []⟩ c.toNat).codes.head?).getD 0

/-- The class of the marks that suppress a vowel. -/
def isVirama (c : Char) : Bool := combiningClass c == 9

end BuildIntake.Text
