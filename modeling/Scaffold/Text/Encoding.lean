import Scaffold.Text.Quoted

/-!
# Texts that an encoding does not take

What is said of a text when its bytes are asked for in an encoding that has none for some of its
parts.
-/

namespace Scaffold.Text

/-- What is said of the first parts that a codec has no bytes for, if there are any. -/
def encodingFault? (codec reason : String) (fits : Part → Bool) (ps : List Part) : Option String :=
  let position := (ps.takeWhile fits).length
  match (ps.drop position).takeWhile (!fits ·) with
  | [] => none
  | [p] =>
    let escape := String.ofList (Quoted.byNumber p.number)
    some (s!"'{codec}' codec can't encode character '{escape}' in position {position}: {reason}")
  | run =>
    some (s!"'{codec}' codec can't encode characters in position {position}-" ++
      s!"{position + run.length - 1}: {reason}")

/-- ASCII has the first 128 characters. -/
def asciiFault? (ps : List Part) : Option String :=
  encodingFault? "ascii" "ordinal not in range(128)" Part.isAscii ps

/-- UTF-8 has all characters, but no surrogates. -/
def utf8Fault? (ps : List Part) : Option String :=
  encodingFault? "utf-8" "surrogates not allowed" Part.isChar ps

end Scaffold.Text
