import BuildIntake.Text.Marks

/-!
# Joining of letters

How a letter joins its neighbours in cursive scripts.
-/

namespace BuildIntake.Text

inductive Joining where
  | none
  | dual
  | left
  | right
  | causing
  /-- Letters on both sides join as if the character were not there. -/
  | transparent
  deriving DecidableEq

def Joining.ofMark : Char → Joining
  | 'd' => .dual
  | 'l' => .left
  | 'r' => .right
  | 'c' => .causing
  | _ => .none

/-- The joining of the characters that are no nonspacing marks. -/
def joiningTable : StepTable := .ofLines
  ["0n 620d 621n 622r 626d 627r 628d 629r 62Ad 62Fr 633d 640c 641d 648r 649d 660n 66Ed 671r",
    "674n 679d 688r 69Ad 6C0r 6C1d 6C3r 6CCd 6CDr 6CEd 6CFr 6D0d 6D2r 6D4n 6D5r 6DEn 6EEr 6F0n",
    "6FAd 6FDn 6FFd 700n 710r 712d 715r 71Ad 71Er 71Fd 728r 729d 72Ar 72Bd 72Cr 72Dd 72Fr 74Ed",
    "759r 75Cd 76Br 76Dd 771r 772d 773r 775d 778r 77Ad 780n 7CAd 7F4n 7FAc 7FEn 840r 841d 846r",
    "848d 849r 84Ad 854r 855d 856r 85En 860d 861n 862d 866n 867r 868d 869r 883c 886d 887n 889d",
    "88Er 88Fn 8A0d 8AAr 8ADn 8AEr 8AFd 8B1r 8B3d 8B9r 8BAd 8C9n 1807d 1808n 180Ac 1810n 1820d",
    "1880n 1887d 18B0n 200Dc 2010n A840d A872l A873n 10AC0d 10AC5r 10AC6n 10AC7r 10AC8n 10AC9r",
    "10ACBn 10ACDl 10ACEr 10AD3d 10AD7l 10AD8d 10ADDr 10ADEd 10AE1r 10AE2n 10AE4r 10AEBd 10AEFr",
    "10AF0n 10B80d 10B81r 10B82d 10B83r 10B86d 10B89r 10B8Ad 10B8Cr 10B8Dd 10B8Er 10B90d 10B91r",
    "10B99n 10BA9r 10BADd 10BAFn 10D00l 10D01d 10D22r 10D23d 10D30n 10F30d 10F33r 10F34d 10F45n",
    "10F51d 10F54r 10F55n 10F70d 10F74r 10F76d 10F86n 10FB0d 10FB1n 10FB2d 10FB4r 10FB7n 10FB8d",
    "10FB9r 10FBBd 10FBDr 10FBEd 10FC0n 10FC1d 10FC2r 10FC4d 10FC5n 10FC9r 10FCAd 10FCBl 10FE0n",
    "1E922d 1E94Bn"]

def joining (c : Char) : Joining :=
  if isNonspacing c then .transparent else .ofMark (joiningTable.markOf 'n' c)

def Joining.joinsNext (j : Joining) : Bool := j == .dual || j == .left

def Joining.joinsPrevious (j : Joining) : Bool := j == .dual || j == .right

end BuildIntake.Text
