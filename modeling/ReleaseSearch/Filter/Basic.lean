import ReleaseSearch.Log.Basic
import ReleaseSearch.Pattern.Replace

/-!
# Filters

A filter turns the text of a field into another text.  A chain of filters is applied from left to
right, each to what the one before it gave; a pattern that cannot be used ends the chain.
-/

namespace ReleaseSearch

open Text

/-- A step in the treatment of a field's text. -/
inductive Filter where
  /-- Replaces every occurrence of a text. -/
  | replace (old new : String)
  /-- Replaces every match of a pattern. -/
  | substitute (pattern replacement : String)
  | append (ending : String)
  | prepend (start : String)
  /-- Takes characters off both ends, blanks unless others are named. -/
  | trim (chars : Option String)
  /-- Marks the text as a date in a layout, and leaves it as it is. -/
  | date (layout : Option String)
  /-- A filter that this library does not know. -/
  | unknown (name : String) (args : List String)
  deriving DecidableEq, Repr

namespace Filter

def source : String := "scoutarr.services.filters"

/-- Takes the characters of `chars` off both ends, or blanks. -/
def trimmed (chars : Option String) (value : Line) : Line :=
  match chars with
  | none => value.strip
  | some chars => value.mapLetters (stripBy (Letter.isA (chars.toList.contains ·)))

/-- What a pattern that cannot be used leads to. -/
def patternTrouble (pattern : String) : Pattern.Fault → Trouble
  | .malformed => .failure (.invalidPattern pattern hiddenText)
  | .repetitionTooLarge | .codePointTooLarge => .breakdown .tooLarge
  | .flagConflict | .numeralTooLong => .breakdown (.badValue none)
  | .tooDeep => .breakdown .tooDeep

def ruleOf [Pattern.Library] (pattern replacement : String) : Except Trouble Pattern.Rule :=
  match Pattern.Rule.read pattern replacement with
  | .ok rule => .ok rule
  | .error (.pattern fault) => .error (patternTrouble pattern fault)
  | .error .template =>
    .error (.failure (.invalidPattern pattern
      ("bad replacement " ++ quoted replacement ++ ": " ++ hiddenText)))

def apply [Pattern.Library] (filter : Filter) (value : Line) : Run Line :=
  match filter with
  | .replace old new =>
    pure (value.mapLetters (replaceAll (Letter.ofString old) (Letter.ofString new)))
  | .substitute pattern replacement => do
    let rule ← Run.ofExcept (ruleOf pattern replacement)
    return value.mapLetters rule.apply
  | .append ending => pure (value.mapLetters (· ++ Letter.ofString ending))
  | .prepend start => pure (value.mapLetters (Letter.ofString start ++ ·))
  | .trim chars => pure (trimmed chars value)
  | .date _ => pure value
  | .unknown name _ => do
    Run.note .debug source ("Unknown filter '" ++ name ++ "' passed value through unchanged")
    return value

def applyAll [Pattern.Library] (filters : List Filter) (value : Line) : Run Line :=
  filters.foldlM (fun value filter => filter.apply value) value

def toData : Filter → Data
  | .replace old new => .object [("name", .text "replace"), ("old", .text old), ("new", .text new)]
  | .substitute pattern replacement =>
    .object [("name", .text "re_replace"), ("pattern", .text pattern),
      ("replacement", .text replacement)]
  | .append ending => .object [("name", .text "append"), ("suffix", .text ending)]
  | .prepend start => .object [("name", .text "prepend"), ("prefix", .text start)]
  | .trim chars => .object [("name", .text "trim"), ("chars", .optional .text chars)]
  | .date layout => .object [("name", .text "dateparse"), ("layout", .optional .text layout)]
  | .unknown name args =>
    .object [("name", .text name), ("args", .list (args.map .text))]

end Filter

end ReleaseSearch
