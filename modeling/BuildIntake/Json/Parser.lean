import BuildIntake.Json.Token

/-!
# Reading JSON

The tokens of a text are consumed one by one. The containers that are still open form a stack; a
stage says which tokens may come next. Of two members with one key the later gives the value and
the earlier the place.
-/

namespace BuildIntake.Json

/-- An open container that waits for one of its values. -/
inductive Frame where
  /-- The items read so far, the last first. -/
  | array (items : List Json)
  | object (members : Members) (key : String)

/-- What may come next. -/
inductive Stage where
  | value
  /-- Behind `[`: a value or the end of the array on top of the stack. -/
  | itemOrEnd
  /-- Behind `\x7b`: a key or the end of the object. -/
  | keyOrEnd
  | key (members : Members)
  | colon (members : Members) (key : String)
  /-- Behind the value `v`. -/
  | more (v : Json)

structure Reading where
  stack : List Frame
  stage : Stage

namespace Reading

def start : Reading := ⟨[], .value⟩

/-- Takes the first token of a value. -/
def begin (stack : List Frame) : Token → Option Reading
  | .atom v => some ⟨stack, .more v⟩
  | .openArray => some ⟨.array [] :: stack, .itemOrEnd⟩
  | .openObject => some ⟨stack, .keyOrEnd⟩
  | _ => none

/-- Takes a token behind the value `v`. -/
def proceed (stack : List Frame) (v : Json) (t : Token) : Option Reading :=
  match stack, t with
  | .array items :: rest, .comma => some ⟨.array (v :: items) :: rest, .value⟩
  | .array items :: rest, .closeArray => some ⟨rest, .more (.arr (v :: items).reverse)⟩
  | .object ms key :: rest, .comma => some ⟨rest, .key (ms.put key v)⟩
  | .object ms key :: rest, .closeObject => some ⟨rest, .more (.obj (ms.put key v))⟩
  | _, _ => none

def step (d : Dialect) (s : Reading) (t : Token) : Option Reading :=
  match s.stage, t with
  | .value, t => begin s.stack t
  | .itemOrEnd, .closeArray => some ⟨s.stack.drop 1, .more (.arr [])⟩
  | .itemOrEnd, t => if s.stack.length ≤ d.depth then begin s.stack t else none
  | .keyOrEnd, .closeObject => some ⟨s.stack, .more (.obj [])⟩
  | .keyOrEnd, .atom (.str key) =>
    if s.stack.length < d.depth then some ⟨s.stack, .colon [] key⟩ else none
  | .key ms, .atom (.str key) => some ⟨s.stack, .colon ms key⟩
  | .colon ms key, .colon => some ⟨.object ms key :: s.stack, .value⟩
  | .more v, t => proceed s.stack v t
  | _, _ => none

/-- The document read, once nothing is left open. -/
def result? : Reading → Option Json
  | ⟨[], .more v⟩ => some v
  | _ => none

end Reading

def ofTokens? (d : Dialect) (ts : List Token) : Option Json :=
  (ts.foldlM (Reading.step d) .start).bind Reading.result?

def parse? (d : Dialect) (s : String) : Option Json :=
  (tokens d s).bind (ofTokens? d)

end BuildIntake.Json
