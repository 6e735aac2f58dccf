import BuildIntake.Url.Percent
import BuildIntake.Url.Scheme

/-!
# Paths

A path is a row of segments. A segment of one dot stands for nothing and one of two dots takes the
segment before it away; both may be written with escapes. The first segment of the path of a file
may be a drive letter.
-/

namespace BuildIntake.Url.Path

/-- A segment with its escaped dots unescaped and nothing else changed. -/
def plainDots : List Char → List Char
  | '%' :: '2' :: 'e' :: r | '%' :: '2' :: 'E' :: r => '.' :: plainDots r
  | c :: r => c :: plainDots r
  | [] => []

/-- A letter and a colon or a bar. -/
def isDrive : List Char → Bool
  | [c, d] => c.isAlpha && (d = ':' || d = '|')
  | _ => false

structure Builder where
  /-- The segments so far, the last first. -/
  segments : List (List Char)
  /-- The path has a drive letter, so its host does not count. -/
  drive : Bool

/-- Takes the last segment away, unless it is a drive letter. -/
def shorten : List (List Char) → List (List Char)
  | s :: rest => if isDrive s then s :: rest else rest
  | [] => []

/-- Adds a segment; `last` tells that no slash follows it. -/
def Builder.push (k : SchemeKind) (last : Bool) (b : Builder) (s : List Char) : Builder :=
  let closed (segments : List (List Char)) := if last then [] :: segments else segments
  if plainDots s = ['.', '.'] then { b with segments := closed (shorten b.segments) }
  else if plainDots s = ['.'] then { b with segments := closed b.segments }
  else if k = .file ∧ b.segments.isEmpty ∧ isDrive s then ⟨[s.take 1 ++ [':']], true⟩
  else { b with segments := percentEncode .path s :: b.segments }

def Builder.pushAll (k : SchemeKind) (b : Builder) : List (List Char) → Builder
  | [] => b
  | [s] => b.push k true s
  | s :: rest => (b.push k false s).pushAll k rest

/-- Builds a path from what stands before the query and the fragment. -/
def build (k : SchemeKind) (cs : List Char) : Builder :=
  let cs := match cs with
    | c :: r => if k.isSlash c then r else c :: r
    | [] => []
  (Builder.mk [] false).pushAll k (cs.splitOnP k.isSlash)

/-- The segments, each behind a slash; a file has no empty segments at the start of its path. -/
def Builder.text (k : SchemeKind) (b : Builder) : List Char :=
  let cs := b.segments.reverse.flatMap fun s => '/' :: s
  if k = .file then '/' :: cs.dropWhile (· = '/') else cs

end BuildIntake.Url.Path
