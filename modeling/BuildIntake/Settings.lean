import BuildIntake.Hook.Decoding
import BuildIntake.Json.Display

/-!
# Settings

The settings of the service. Each is given directly or by the environment, or has a default; what
is given directly goes before the environment. The case of the letters of a name does not matter.
-/

namespace BuildIntake

open Schema Number

/-- How much the log shows. -/
inductive Verbosity where
  | critical | fatal | error | warning | warn | info | debug | unset
  deriving DecidableEq

namespace Verbosity

def all : List Verbosity := [.critical, .fatal, .error, .warning, .warn, .info, .debug, .unset]

def name : Verbosity → String
  | .critical => "CRITICAL"
  | .fatal => "FATAL"
  | .error => "ERROR"
  | .warning => "WARNING"
  | .warn => "WARN"
  | .info => "INFO"
  | .debug => "DEBUG"
  | .unset => "NOTSET"

/-- The least level that is shown. -/
def least : Verbosity → Level
  | .critical | .fatal => .critical
  | .error => .error
  | .warning | .warn | .unset => .warning
  | .info => .info
  | .debug => .debug

def check : Check Verbosity := fun v =>
  (Check.oneOf (all.map name) v).map fun s => (all.find? fun l => l.name = s).getD .info

/-- The notes that are shown; counts are kept. -/
def filter (v : Verbosity) (notes : List Note) : List Note :=
  notes.filter fun
    | .line level _ => v.least.rank ≤ level.rank
    | .count _ => true

end Verbosity

structure Settings where
  /-- Where the service is found; it ends with a slash. -/
  rootUrl : String
  jobsFile : Option String
  /-- The delay in seconds of a request that asks for none. -/
  quietPeriod : Extended
  ignoreUnknown : Bool
  verbosity : Verbosity
  sterile : Bool

namespace Settings

def EndsWithSlash (url : String) : Prop := url.toList.getLast? = some '/'

instance (url : String) : Decidable (EndsWithSlash url) :=
  inferInstanceAs (Decidable (_ = _))

def withSlash (url : String) : String := if EndsWithSlash url then url else url ++ "/"

theorem withSlash_of_endsWithSlash {url : String} (h : EndsWithSlash url) : withSlash url = url :=
  if_pos h

theorem endsWithSlash_withSlash (url : String) : EndsWithSlash (withSlash url) := by
  unfold withSlash
  split
  case isTrue h => exact h
  case isFalse => simp [EndsWithSlash]

def title : String := "Config"

def fields : PlainFields Settings :=
  PlainFields.of (fun url file period ignored verbosity sterile =>
      ⟨withSlash url, file, period, ignored, verbosity, sterile⟩)
    |>.optional (.plain "ROOT_URL") .text "http://localhost:8000/"
    |>.optionalText (.plain "JOBS_FILE")
    |>.optional (.plain "QUIET_PERIOD") .number .zero
    |>.optional (.plain "IGNORE_UNKNOWN_FIELDS") .flag true
    |>.optional (.plain "OVERRIDE_LOGGING") Verbosity.check .info
    |>.optional (.plain "STERILE") .flag false

def names : List String := fields.names.map (·.name)

def smallLetters (s : String) : String := s.map Char.toLower

/-- What is given directly for a name: its exact spelling goes before others. -/
def direct? (values : Json.Members) (name : String) : Option Json :=
  (values.lookup name).or
    ((values.find? fun m => smallLetters m.1 = smallLetters name).map (·.2))

/-- What the environment gives for a name; the latest of several spellings counts. -/
def environment? (env : List (String × String)) (name : String) : Option Json :=
  (env.reverse.find? fun m => smallLetters m.1 = smallLetters name).map fun m => .str m.2

/-- What is given for the settings, from either source. -/
def given (values : Json.Members) (env : List (String × String)) : Json.Members :=
  names.filterMap fun name =>
    ((direct? values name).or (environment? env name)).map (name, ·)

/-- The keys given directly that name no setting. -/
def foreign (values : Json.Members) : List String :=
  values.keys.filter fun key => smallLetters key ∉ names.map smallLetters

/-- Reads the settings; a key that names none of them is a problem of its own. -/
def read (values : Json.Members) (env : List (String × String)) : Except Rejection Settings :=
  let refused := (foreign values).map fun key => Problem.mk [.key key] .undeclared
  match fields.read (given values env), refused with
  | .ok s, [] => .ok s
  | .ok _, ps => .error ⟨title, .value, ps⟩
  | .error ps, qs => .error ⟨title, .value, ps ++ qs⟩

def strictness (s : Settings) : Hook.Strictness :=
  if s.ignoreUnknown then .lenient else .strict

/-- The settings under their names, as documents. -/
def members (s : Settings) : Json.Members :=
  [("ROOT_URL", .str s.rootUrl), ("JOBS_FILE", s.jobsFile.elim .null .str),
    ("QUIET_PERIOD", .float s.quietPeriod), ("IGNORE_UNKNOWN_FIELDS", .bool s.ignoreUnknown),
    ("OVERRIDE_LOGGING", .str s.verbosity.name), ("STERILE", .bool s.sterile)]

/-- The lines that show the settings. -/
def overview (s : Settings) : List String :=
  "=== TFS Relay Configuration ===" :: s.members.map (fun m => m.1 ++ ": " ++ m.2.plain) ++
    ["================================"]

def report {ε : Type} (s : Settings) : Journal ε Unit :=
  ⟨s.overview.map (.line .info), .ok ()⟩

end Settings

end BuildIntake
