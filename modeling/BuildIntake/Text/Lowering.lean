import BuildIntake.Text.StepTable

/-!
# Small letters

The form of a text in small letters. Most capital letters have one small letter, at one distance for
a whole run of them. The capital sigma has two, of which one stands at the ends of words, and the
dotted capital i keeps its dot as a character of its own.
-/

namespace BuildIntake.Text

/-- Every `stride`th character from `first` to `last` has its small letter `shift` codes further. -/
structure CaseRun where
  first : Nat
  last : Nat
  stride : Nat
  shift : Int

def CaseRun.holds (r : CaseRun) (n : Nat) : Bool :=
  r.first ≤ n && n ≤ r.last && (n - r.first) % r.stride = 0

def caseRuns : List CaseRun :=
  [⟨0x41, 0x5A, 1, 0x20⟩, ⟨0xC0, 0xD6, 1, 0x20⟩, ⟨0xD8, 0xDE, 1, 0x20⟩, ⟨0x100, 0x12E, 2, 1⟩,
    ⟨0x132, 0x136, 2, 1⟩, ⟨0x139, 0x147, 2, 1⟩, ⟨0x14A, 0x176, 2, 1⟩, ⟨0x178, 0x178, 1, -0x79⟩,
    ⟨0x179, 0x17D, 2, 1⟩, ⟨0x181, 0x181, 1, 0xD2⟩, ⟨0x182, 0x184, 2, 1⟩, ⟨0x186, 0x186, 1, 0xCE⟩,
    ⟨0x187, 0x187, 1, 1⟩, ⟨0x189, 0x18A, 1, 0xCD⟩, ⟨0x18B, 0x18B, 1, 1⟩, ⟨0x18E, 0x18E, 1, 0x4F⟩,
    ⟨0x18F, 0x18F, 1, 0xCA⟩, ⟨0x190, 0x190, 1, 0xCB⟩, ⟨0x191, 0x191, 1, 1⟩,
    ⟨0x193, 0x193, 1, 0xCD⟩, ⟨0x194, 0x194, 1, 0xCF⟩, ⟨0x196, 0x196, 1, 0xD3⟩,
    ⟨0x197, 0x197, 1, 0xD1⟩, ⟨0x198, 0x198, 1, 1⟩, ⟨0x19C, 0x19C, 1, 0xD3⟩,
    ⟨0x19D, 0x19D, 1, 0xD5⟩, ⟨0x19F, 0x19F, 1, 0xD6⟩, ⟨0x1A0, 0x1A4, 2, 1⟩,
    ⟨0x1A6, 0x1A6, 1, 0xDA⟩, ⟨0x1A7, 0x1A7, 1, 1⟩, ⟨0x1A9, 0x1A9, 1, 0xDA⟩, ⟨0x1AC, 0x1AC, 1, 1⟩,
    ⟨0x1AE, 0x1AE, 1, 0xDA⟩, ⟨0x1AF, 0x1AF, 1, 1⟩, ⟨0x1B1, 0x1B2, 1, 0xD9⟩, ⟨0x1B3, 0x1B5, 2, 1⟩,
    ⟨0x1B7, 0x1B7, 1, 0xDB⟩, ⟨0x1B8, 0x1B8, 1, 1⟩, ⟨0x1BC, 0x1BC, 1, 1⟩, ⟨0x1C4, 0x1C4, 1, 2⟩,
    ⟨0x1C5, 0x1C5, 1, 1⟩, ⟨0x1C7, 0x1C7, 1, 2⟩, ⟨0x1C8, 0x1C8, 1, 1⟩, ⟨0x1CA, 0x1CA, 1, 2⟩,
    ⟨0x1CB, 0x1DB, 2, 1⟩, ⟨0x1DE, 0x1EE, 2, 1⟩, ⟨0x1F1, 0x1F1, 1, 2⟩, ⟨0x1F2, 0x1F4, 2, 1⟩,
    ⟨0x1F6, 0x1F6, 1, -0x61⟩, ⟨0x1F7, 0x1F7, 1, -0x38⟩, ⟨0x1F8, 0x21E, 2, 1⟩,
    ⟨0x220, 0x220, 1, -0x82⟩, ⟨0x222, 0x232, 2, 1⟩, ⟨0x23A, 0x23A, 1, 0x2A2B⟩,
    ⟨0x23B, 0x23B, 1, 1⟩, ⟨0x23D, 0x23D, 1, -0xA3⟩, ⟨0x23E, 0x23E, 1, 0x2A28⟩,
    ⟨0x241, 0x241, 1, 1⟩, ⟨0x243, 0x243, 1, -0xC3⟩, ⟨0x244, 0x244, 1, 0x45⟩,
    ⟨0x245, 0x245, 1, 0x47⟩, ⟨0x246, 0x24E, 2, 1⟩, ⟨0x370, 0x372, 2, 1⟩, ⟨0x376, 0x376, 1, 1⟩,
    ⟨0x37F, 0x37F, 1, 0x74⟩, ⟨0x386, 0x386, 1, 0x26⟩, ⟨0x388, 0x38A, 1, 0x25⟩,
    ⟨0x38C, 0x38C, 1, 0x40⟩, ⟨0x38E, 0x38F, 1, 0x3F⟩, ⟨0x391, 0x3A1, 1, 0x20⟩,
    ⟨0x3A3, 0x3AB, 1, 0x20⟩, ⟨0x3CF, 0x3CF, 1, 8⟩, ⟨0x3D8, 0x3EE, 2, 1⟩, ⟨0x3F4, 0x3F4, 1, -0x3C⟩,
    ⟨0x3F7, 0x3F7, 1, 1⟩, ⟨0x3F9, 0x3F9, 1, -7⟩, ⟨0x3FA, 0x3FA, 1, 1⟩, ⟨0x3FD, 0x3FF, 1, -0x82⟩,
    ⟨0x400, 0x40F, 1, 0x50⟩, ⟨0x410, 0x42F, 1, 0x20⟩, ⟨0x460, 0x480, 2, 1⟩, ⟨0x48A, 0x4BE, 2, 1⟩,
    ⟨0x4C0, 0x4C0, 1, 0xF⟩, ⟨0x4C1, 0x4CD, 2, 1⟩, ⟨0x4D0, 0x52E, 2, 1⟩, ⟨0x531, 0x556, 1, 0x30⟩,
    ⟨0x10A0, 0x10C5, 1, 0x1C60⟩, ⟨0x10C7, 0x10C7, 1, 0x1C60⟩, ⟨0x10CD, 0x10CD, 1, 0x1C60⟩,
    ⟨0x13A0, 0x13EF, 1, 0x97D0⟩, ⟨0x13F0, 0x13F5, 1, 8⟩, ⟨0x1C90, 0x1CBA, 1, -0xBC0⟩,
    ⟨0x1CBD, 0x1CBF, 1, -0xBC0⟩, ⟨0x1E00, 0x1E94, 2, 1⟩, ⟨0x1E9E, 0x1E9E, 1, -0x1DBF⟩,
    ⟨0x1EA0, 0x1EFE, 2, 1⟩, ⟨0x1F08, 0x1F0F, 1, -8⟩, ⟨0x1F18, 0x1F1D, 1, -8⟩,
    ⟨0x1F28, 0x1F2F, 1, -8⟩, ⟨0x1F38, 0x1F3F, 1, -8⟩, ⟨0x1F48, 0x1F4D, 1, -8⟩,
    ⟨0x1F59, 0x1F5F, 2, -8⟩, ⟨0x1F68, 0x1F6F, 1, -8⟩, ⟨0x1F88, 0x1F8F, 1, -8⟩,
    ⟨0x1F98, 0x1F9F, 1, -8⟩, ⟨0x1FA8, 0x1FAF, 1, -8⟩, ⟨0x1FB8, 0x1FB9, 1, -8⟩,
    ⟨0x1FBA, 0x1FBB, 1, -0x4A⟩, ⟨0x1FBC, 0x1FBC, 1, -9⟩, ⟨0x1FC8, 0x1FCB, 1, -0x56⟩,
    ⟨0x1FCC, 0x1FCC, 1, -9⟩, ⟨0x1FD8, 0x1FD9, 1, -8⟩, ⟨0x1FDA, 0x1FDB, 1, -0x64⟩,
    ⟨0x1FE8, 0x1FE9, 1, -8⟩, ⟨0x1FEA, 0x1FEB, 1, -0x70⟩, ⟨0x1FEC, 0x1FEC, 1, -7⟩,
    ⟨0x1FF8, 0x1FF9, 1, -0x80⟩, ⟨0x1FFA, 0x1FFB, 1, -0x7E⟩, ⟨0x1FFC, 0x1FFC, 1, -9⟩,
    ⟨0x2126, 0x2126, 1, -0x1D5D⟩, ⟨0x212A, 0x212A, 1, -0x20BF⟩, ⟨0x212B, 0x212B, 1, -0x2046⟩,
    ⟨0x2132, 0x2132, 1, 0x1C⟩, ⟨0x2160, 0x216F, 1, 0x10⟩, ⟨0x2183, 0x2183, 1, 1⟩,
    ⟨0x24B6, 0x24CF, 1, 0x1A⟩, ⟨0x2C00, 0x2C2F, 1, 0x30⟩, ⟨0x2C60, 0x2C60, 1, 1⟩,
    ⟨0x2C62, 0x2C62, 1, -0x29F7⟩, ⟨0x2C63, 0x2C63, 1, -0xEE6⟩, ⟨0x2C64, 0x2C64, 1, -0x29E7⟩,
    ⟨0x2C67, 0x2C6B, 2, 1⟩, ⟨0x2C6D, 0x2C6D, 1, -0x2A1C⟩, ⟨0x2C6E, 0x2C6E, 1, -0x29FD⟩,
    ⟨0x2C6F, 0x2C6F, 1, -0x2A1F⟩, ⟨0x2C70, 0x2C70, 1, -0x2A1E⟩, ⟨0x2C72, 0x2C72, 1, 1⟩,
    ⟨0x2C75, 0x2C75, 1, 1⟩, ⟨0x2C7E, 0x2C7F, 1, -0x2A3F⟩, ⟨0x2C80, 0x2CE2, 2, 1⟩,
    ⟨0x2CEB, 0x2CED, 2, 1⟩, ⟨0x2CF2, 0x2CF2, 1, 1⟩, ⟨0xA640, 0xA66C, 2, 1⟩, ⟨0xA680, 0xA69A, 2, 1⟩,
    ⟨0xA722, 0xA72E, 2, 1⟩, ⟨0xA732, 0xA76E, 2, 1⟩, ⟨0xA779, 0xA77B, 2, 1⟩,
    ⟨0xA77D, 0xA77D, 1, -0x8A04⟩, ⟨0xA77E, 0xA786, 2, 1⟩, ⟨0xA78B, 0xA78B, 1, 1⟩,
    ⟨0xA78D, 0xA78D, 1, -0xA528⟩, ⟨0xA790, 0xA792, 2, 1⟩, ⟨0xA796, 0xA7A8, 2, 1⟩,
    ⟨0xA7AA, 0xA7AA, 1, -0xA544⟩, ⟨0xA7AB, 0xA7AB, 1, -0xA54F⟩, ⟨0xA7AC, 0xA7AC, 1, -0xA54B⟩,
    ⟨0xA7AD, 0xA7AD, 1, -0xA541⟩, ⟨0xA7AE, 0xA7AE, 1, -0xA544⟩, ⟨0xA7B0, 0xA7B0, 1, -0xA512⟩,
    ⟨0xA7B1, 0xA7B1, 1, -0xA52A⟩, ⟨0xA7B2, 0xA7B2, 1, -0xA515⟩, ⟨0xA7B3, 0xA7B3, 1, 0x3A0⟩,
    ⟨0xA7B4, 0xA7C2, 2, 1⟩, ⟨0xA7C4, 0xA7C4, 1, -0x30⟩, ⟨0xA7C5, 0xA7C5, 1, -0xA543⟩,
    ⟨0xA7C6, 0xA7C6, 1, -0x8A38⟩, ⟨0xA7C7, 0xA7C9, 2, 1⟩, ⟨0xA7D0, 0xA7D0, 1, 1⟩,
    ⟨0xA7D6, 0xA7D8, 2, 1⟩, ⟨0xA7F5, 0xA7F5, 1, 1⟩, ⟨0xFF21, 0xFF3A, 1, 0x20⟩,
    ⟨0x10400, 0x10427, 1, 0x28⟩, ⟨0x104B0, 0x104D3, 1, 0x28⟩, ⟨0x10570, 0x1057A, 1, 0x27⟩,
    ⟨0x1057C, 0x1058A, 1, 0x27⟩, ⟨0x1058C, 0x10592, 1, 0x27⟩, ⟨0x10594, 0x10595, 1, 0x27⟩,
    ⟨0x10C80, 0x10CB2, 1, 0x40⟩, ⟨0x118A0, 0x118BF, 1, 0x20⟩, ⟨0x16E40, 0x16E5F, 1, 0x20⟩,
    ⟨0x1E900, 0x1E921, 1, 0x22⟩]

/-- The small letter of a character that has only one. -/
def small (c : Char) : Char :=
  match caseRuns.find? fun r => r.holds c.toNat with
  | some r => Char.ofNat (c.toNat + r.shift).toNat
  | none => c

/-- What characters count for in words: `c` is a letter with a case, `i` is passed over, and `o` is
neither. -/
def wordTable : StepTable := .ofLines
  ["0o 27i 28o 2Ei 2Fo 3Ai 3Bo 41c 5Bo 5Ei 5Fo 60i 61c 7Bo A8i A9o AAc ABo ADi AEo AFi B0o B4i",
    "B5c B6o B7i B9o BAc BBo C0c D7o D8c F7o F8c 1BBo 1BCc 1C0o 1C4c 294o 295c 2B0i 370c 374i",
    "376c 378o 37Ai 37Bc 37Eo 37Fc 380o 384i 386c 387i 388c 38Bo 38Cc 38Do 38Ec 3A2o 3A3c 3F6o",
    "3F7c 482o 483i 48Ac 530o 531c 557o 559i 55Ao 55Fi 560c 589o 591i 5BEo 5BFi 5C0o 5C1i 5C3o",
    "5C4i 5C6o 5C7i 5C8o 5F4i 5F5o 600i 606o 610i 61Bo 61Ci 61Do 640i 641o 64Bi 660o 670i 671o",
    "6D6i 6DEo 6DFi 6E9o 6EAi 6EEo 70Fi 710o 711i 712o 730i 74Bo 7A6i 7B1o 7EBi 7F6o 7FAi 7FBo",
    "7FDi 7FEo 816i 82Eo 859i 85Co 888i 889o 890i 892o 898i 8A0o 8C9i 903o 93Ai 93Bo 93Ci 93Do",
    "941i 949o 94Di 94Eo 951i 958o 962i 964o 971i 972o 981i 982o 9BCi 9BDo 9C1i 9C5o 9CDi 9CEo",
    "9E2i 9E4o 9FEi 9FFo A01i A03o A3Ci A3Do A41i A43o A47i A49o A4Bi A4Eo A51i A52o A70i A72o",
    "A75i A76o A81i A83o ABCi ABDo AC1i AC6o AC7i AC9o ACDi ACEo AE2i AE4o AFAi B00o B01i B02o",
    "B3Ci B3Do B3Fi B40o B41i B45o B4Di B4Eo B55i B57o B62i B64o B82i B83o BC0i BC1o BCDi BCEo",
    "C00i C01o C04i C05o C3Ci C3Do C3Ei C41o C46i C49o C4Ai C4Eo C55i C57o C62i C64o C81i C82o",
    "CBCi CBDo CBFi CC0o CC6i CC7o CCCi CCEo CE2i CE4o D00i D02o D3Bi D3Do D41i D45o D4Di D4Eo",
    "D62i D64o D81i D82o DCAi DCBo DD2i DD5o DD6i DD7o E31i E32o E34i E3Bo E46i E4Fo EB1i EB2o",
    "EB4i EBDo EC6i EC7o EC8i ECEo F18i F1Ao F35i F36o F37i F38o F39i F3Ao F71i F7Fo F80i F85o",
    "F86i F88o F8Di F98o F99i FBDo FC6i FC7o 102Di 1031o 1032i 1038o 1039i 103Bo 103Di 103Fo",
    "1058i 105Ao 105Ei 1061o 1071i 1075o 1082i 1083o 1085i 1087o 108Di 108Eo 109Di 109Eo 10A0c",
    "10C6o 10C7c 10C8o 10CDc 10CEo 10D0c 10FBo 10FCi 10FDc 1100o 135Di 1360o 13A0c 13F6o 13F8c",
    "13FEo 1712i 1715o 1732i 1734o 1752i 1754o 1772i 1774o 17B4i 17B6o 17B7i 17BEo 17C6i 17C7o",
    "17C9i 17D4o 17D7i 17D8o 17DDi 17DEo 180Bi 1810o 1843i 1844o 1885i 1887o 18A9i 18AAo 1920i",
    "1923o 1927i 1929o 1932i 1933o 1939i 193Co 1A17i 1A19o 1A1Bi 1A1Co 1A56i 1A57o 1A58i 1A5Fo",
    "1A60i 1A61o 1A62i 1A63o 1A65i 1A6Do 1A73i 1A7Do 1A7Fi 1A80o 1AA7i 1AA8o 1AB0i 1ACFo 1B00i",
    "1B04o 1B34i 1B35o 1B36i 1B3Bo 1B3Ci 1B3Do 1B42i 1B43o 1B6Bi 1B74o 1B80i 1B82o 1BA2i 1BA6o",
    "1BA8i 1BAAo 1BABi 1BAEo 1BE6i 1BE7o 1BE8i 1BEAo 1BEDi 1BEEo 1BEFi 1BF2o 1C2Ci 1C34o 1C36i",
    "1C38o 1C78i 1C7Eo 1C80c 1C89o 1C90c 1CBBo 1CBDc 1CC0o 1CD0i 1CD3o 1CD4i 1CE1o 1CE2i 1CE9o",
    "1CEDi 1CEEo 1CF4i 1CF5o 1CF8i 1CFAo 1D00c 1D2Ci 1D6Bc 1D78i 1D79c 1D9Bi 1E00c 1F16o 1F18c",
    "1F1Eo 1F20c 1F46o 1F48c 1F4Eo 1F50c 1F58o 1F59c 1F5Ao 1F5Bc 1F5Co 1F5Dc 1F5Eo 1F5Fc 1F7Eo",
    "1F80c 1FB5o 1FB6c 1FBDi 1FBEc 1FBFi 1FC2c 1FC5o 1FC6c 1FCDi 1FD0c 1FD4o 1FD6c 1FDCo 1FDDi",
    "1FE0c 1FEDi 1FF0o 1FF2c 1FF5o 1FF6c 1FFDi 1FFFo 200Bi 2010o 2018i 201Ao 2024i 2025o 2027i",
    "2028o 202Ai 202Fo 2060i 2065o 2066i 2070o 2071i 2072o 207Fi 2080o 2090i 209Do 20D0i 20F1o",
    "2102c 2103o 2107c 2108o 210Ac 2114o 2115c 2116o 2119c 211Eo 2124c 2125o 2126c 2127o 2128c",
    "2129o 212Ac 212Eo 212Fc 2135o 2139c 213Ao 213Cc 2140o 2145c 214Ao 214Ec 214Fo 2160c 2180o",
    "2183c 2185o 24B6c 24EAo 2C00c 2C7Ci 2C7Ec 2CE5o 2CEBc 2CEFi 2CF2c 2CF4o 2D00c 2D26o 2D27c",
    "2D28o 2D2Dc 2D2Eo 2D6Fi 2D70o 2D7Fi 2D80o 2DE0i 2E00o 2E2Fi 2E30o 3005i 3006o 302Ai 302Eo",
    "3031i 3036o 303Bi 303Co 3099i 309Fo 30FCi 30FFo A015i A016o A4F8i A4FEo A60Ci A60Do A640c",
    "A66Eo A66Fi A673o A674i A67Eo A67Fi A680c A69Ci A6A0o A6F0i A6F2o A700i A722c A770i A771c",
    "A788i A78Bc A78Fo A790c A7CBo A7D0c A7D2o A7D3c A7D4o A7D5c A7DAo A7F2i A7F5c A7F7o A7F8i",
    "A7FAc A7FBo A802i A803o A806i A807o A80Bi A80Co A825i A827o A82Ci A82Do A8C4i A8C6o A8E0i",
    "A8F2o A8FFi A900o A926i A92Eo A947i A952o A980i A983o A9B3i A9B4o A9B6i A9BAo A9BCi A9BEo",
    "A9CFi A9D0o A9E5i A9E7o AA29i AA2Fo AA31i AA33o AA35i AA37o AA43i AA44o AA4Ci AA4Do AA70i",
    "AA71o AA7Ci AA7Do AAB0i AAB1o AAB2i AAB5o AAB7i AAB9o AABEi AAC0o AAC1i AAC2o AADDi AADEo",
    "AAECi AAEEo AAF3i AAF5o AAF6i AAF7o AB30c AB5Bi AB60c AB69i AB6Co AB70c ABC0o ABE5i ABE6o",
    "ABE8i ABE9o ABEDi ABEEo FB00c FB07o FB13c FB18o FB1Ei FB1Fo FBB2i FBC3o FE00i FE10o FE13i",
    "FE14o FE20i FE30o FE52i FE53o FE55i FE56o FEFFi FF00o FF07i FF08o FF0Ei FF0Fo FF1Ai FF1Bo",
    "FF21c FF3Bo FF3Ei FF3Fo FF40i FF41c FF5Bo FF70i FF71o FF9Ei FFA0o FFE3i FFE4o FFF9i FFFCo",
    "101FDi 101FEo 102E0i 102E1o 10376i 1037Bo 10400c 10450o 104B0c 104D4o 104D8c 104FCo 10570c",
    "1057Bo 1057Cc 1058Bo 1058Cc 10593o 10594c 10596o 10597c 105A2o 105A3c 105B2o 105B3c 105BAo",
    "105BBc 105BDo 10780i 10786o 10787i 107B1o 107B2i 107BBo 10A01i 10A04o 10A05i 10A07o 10A0Ci",
    "10A10o 10A38i 10A3Bo 10A3Fi 10A40o 10AE5i 10AE7o 10C80c 10CB3o 10CC0c 10CF3o 10D24i 10D28o",
    "10EABi 10EADo 10F46i 10F51o 10F82i 10F86o 11001i 11002o 11038i 11047o 11070i 11071o 11073i",
    "11075o 1107Fi 11082o 110B3i 110B7o 110B9i 110BBo 110BDi 110BEo 110C2i 110C3o 110CDi 110CEo",
    "11100i 11103o 11127i 1112Co 1112Di 11135o 11173i 11174o 11180i 11182o 111B6i 111BFo 111C9i",
    "111CDo 111CFi 111D0o 1122Fi 11232o 11234i 11235o 11236i 11238o 1123Ei 1123Fo 112DFi 112E0o",
    "112E3i 112EBo 11300i 11302o 1133Bi 1133Do 11340i 11341o 11366i 1136Do 11370i 11375o 11438i",
    "11440o 11442i 11445o 11446i 11447o 1145Ei 1145Fo 114B3i 114B9o 114BAi 114BBo 114BFi 114C1o",
    "114C2i 114C4o 115B2i 115B6o 115BCi 115BEo 115BFi 115C1o 115DCi 115DEo 11633i 1163Bo 1163Di",
    "1163Eo 1163Fi 11641o 116ABi 116ACo 116ADi 116AEo 116B0i 116B6o 116B7i 116B8o 1171Di 11720o",
    "11722i 11726o 11727i 1172Co 1182Fi 11838o 11839i 1183Bo 118A0c 118E0o 1193Bi 1193Do 1193Ei",
    "1193Fo 11943i 11944o 119D4i 119D8o 119DAi 119DCo 119E0i 119E1o 11A01i 11A0Bo 11A33i 11A39o",
    "11A3Bi 11A3Fo 11A47i 11A48o 11A51i 11A57o 11A59i 11A5Co 11A8Ai 11A97o 11A98i 11A9Ao 11C30i",
    "11C37o 11C38i 11C3Eo 11C3Fi 11C40o 11C92i 11CA8o 11CAAi 11CB1o 11CB2i 11CB4o 11CB5i 11CB7o",
    "11D31i 11D37o 11D3Ai 11D3Bo 11D3Ci 11D3Eo 11D3Fi 11D46o 11D47i 11D48o 11D90i 11D92o 11D95i",
    "11D96o 11D97i 11D98o 11EF3i 11EF5o 13430i 13439o 16AF0i 16AF5o 16B30i 16B37o 16B40i 16B44o",
    "16E40c 16E80o 16F4Fi 16F50o 16F8Fi 16FA0o 16FE0i 16FE2o 16FE3i 16FE5o 1AFF0i 1AFF4o 1AFF5i",
    "1AFFCo 1AFFDi 1AFFFo 1BC9Di 1BC9Fo 1BCA0i 1BCA4o 1CF00i 1CF2Eo 1CF30i 1CF47o 1D167i 1D16Ao",
    "1D173i 1D183o 1D185i 1D18Co 1D1AAi 1D1AEo 1D242i 1D245o 1D400c 1D455o 1D456c 1D49Do 1D49Ec",
    "1D4A0o 1D4A2c 1D4A3o 1D4A5c 1D4A7o 1D4A9c 1D4ADo 1D4AEc 1D4BAo 1D4BBc 1D4BCo 1D4BDc 1D4C4o",
    "1D4C5c 1D506o 1D507c 1D50Bo 1D50Dc 1D515o 1D516c 1D51Do 1D51Ec 1D53Ao 1D53Bc 1D53Fo 1D540c",
    "1D545o 1D546c 1D547o 1D54Ac 1D551o 1D552c 1D6A6o 1D6A8c 1D6C1o 1D6C2c 1D6DBo 1D6DCc 1D6FBo",
    "1D6FCc 1D715o 1D716c 1D735o 1D736c 1D74Fo 1D750c 1D76Fo 1D770c 1D789o 1D78Ac 1D7A9o 1D7AAc",
    "1D7C3o 1D7C4c 1D7CCo 1DA00i 1DA37o 1DA3Bi 1DA6Do 1DA75i 1DA76o 1DA84i 1DA85o 1DA9Bi 1DAA0o",
    "1DAA1i 1DAB0o 1DF00c 1DF0Ao 1DF0Bc 1DF1Fo 1E000i 1E007o 1E008i 1E019o 1E01Bi 1E022o 1E023i",
    "1E025o 1E026i 1E02Bo 1E130i 1E13Eo 1E2AEi 1E2AFo 1E2ECi 1E2F0o 1E8D0i 1E8D7o 1E900c 1E944i",
    "1E94Co 1F130c 1F14Ao 1F150c 1F16Ao 1F170c 1F18Ao 1F3FBi 1F400o E0001i E0002o E0020i E0080o",
    "E0100i E01F0o"]

def wordMark (c : Char) : Char := wordTable.markOf 'o' c

/-- Whether the text goes on with a letter that has a case, except for what is passed over. -/
def continuesWord (cs : List Char) : Bool :=
  (cs.dropWhile fun c => wordMark c = 'i').head?.any fun c => wordMark c = 'c'

/-- The small form of a character between others, of which those before it come in reverse. -/
def lowerAt (before : List Char) (c : Char) (after : List Char) : List Char :=
  if c = '\u03a3' then
    [if continuesWord before && !continuesWord after then '\u03c2' else '\u03c3']
  else if c = '\u0130' then ['i', '\u0307']
  else [small c]

def lowerFrom (before : List Char) : List Char → List Char
  | [] => []
  | c :: cs => lowerAt before c cs ++ lowerFrom (c :: before) cs

def lower (s : String) : String := .ofList (lowerFrom [] s.toList)

end BuildIntake.Text
