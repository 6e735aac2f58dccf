import BuildIntake.Text.Marks

/-!
# Writing direction

The bidirectional classes of characters, as far as labels of a domain are concerned.
-/

namespace BuildIntake.Text

inductive Direction where
  | left
  | right
  | arabic
  | arabicNumber
  | number
  | numberSign
  | numberEnd
  | separator
  | neutral
  | boundary
  | nonspacing
  | other
  deriving DecidableEq

def Direction.ofMark : Char → Direction
  | 'l' => .left
  | 'r' => .right
  | 'a' => .arabic
  | 'd' => .arabicNumber
  | 'e' => .number
  | 's' => .numberSign
  | 't' => .numberEnd
  | 'c' => .separator
  | 'o' => .neutral
  | 'b' => .boundary
  | _ => .other

/-- The directions of the characters that are no nonspacing marks. -/
def directionTable : StepTable := .ofLines
  ["0b 9x Eb 1Cx 21o 23t 26o 2Bs 2Cc 2Ds 2Ec 30e 3Ac 3Bo 61l 7Bo 7Fb A1o A2t A6o B0t B6o DFl",
    "F7o F8l 2B9o 2BBl 2C2o 2D0l 2D2o 2EEl 2EFo 371l 375o 377l 3F6o 3F8l 58Ao 58Ft 5BEr 606o",
    "608a 609t 60Ba 60Cc 60Da 60Eo 61Ba 660d 66At 66Bd 66Da 6DEo 6E5a 6E9o 6EEa 6F0e 6FAa 7C0r",
    "7F6o 7FAr 860a 903l 9F2t 9F4l 9FBt 9FCl AF1t AF9l BF3o BF9t BFAo C01l C78o C7Fl E3Ft E40l",
    "F3Ao F3El 1390o 13A0l 1400o 1401l 169Bo 16A0l 17DBt 17DCl 17F0o 1810l 1940o 1946l 19DEo",
    "1A00l 200Cb 2010o 2030t 2035o 2044c 2045o 20A0t 2104o 212Et 213Ao 214El 218Ao 2212s 2213t",
    "2214o 2336l 237Bo 2395l 2396o 2427l 2440o 26ACl 26ADo 2800l 2900o 2B96l 2B97o 2C30l 2CE5o",
    "2CECl 2CF9o 2D00l 2E00o 3005l 3008o 3021l 3030o 3031l 3037o 303Bl 303Do 3041l 30A0o 30A1l",
    "30FBo 30FCl 31C0o 31E4l 4DC0o 4E00l A490o A4D0l A60Do A610l A673o A681l A700o A723l A788o",
    "A789l A828o A830l A838t A840l A874o A880l AB6Ao ABC0l FBB2a FD3Eo FD90a FDCFo FE73a 10000l",
    "10101o 10102l 10140o 1018Dl 10190o 101D0l 102E1e 10300l 10800r 1091Fo 10920r 10B39o 10B40r",
    "10D00a 10D30d 10D40r 10E60d 10E80r 10EC2a 10F00r 10F30a 10F70r 11000l 11052o 11066l 11660o",
    "11680l 11FD5o 11FDDt 11FE1o 11FFFl 16FE2o 16FE3l 1D1E9o 1D2C0l 1D300o 1D360l 1E2FFt 1E4D0l",
    "1E800r 1EC71a 1EEF0o 1F150l 1F16Do 1F170l 1F1ADo 1F1E6l 1F260o 1F6D8l 1F6DCo 1F777l 1F77Bo",
    "1F8B2l 1F900o 1FA54l 1FA60o 1FA89l 1FA90o 1FABEl 1FABFo 1FAC6l 1FACEo 1FADCl 1FAE0o 1FAE9l",
    "1FAF0o 1FBCBl"]

def direction (c : Char) : Direction :=
  if isNonspacing c then .nonspacing else .ofMark (directionTable.markOf 'l' c)

end BuildIntake.Text
