import RoadAtlas.Text.Quoted
import RoadAtlas.Failure

/-!
# Text without a UTF-8 form

Every character has a UTF-8 form, but an unpaired surrogate (`Text.Symbol.surrogate`) has none,
so text that holds one cannot be written as UTF-8. Writing stops at the first unpaired surrogate
and reports the run of unpaired surrogates that starts there, by code point positions: a run of
one is named by its `\uXXXX` escape and its position, a longer run by its first and last
position.

## Main definitions

* `Text.SurrogateRun`, `Text.surrogateRun?`: the first run of unpaired surrogates in text.
* `Text.checkUtf8`: succeeds on text that has a UTF-8 form.

## Main results

* `surrogateRun?_chars`: text of characters alone has no such run.
-/

namespace RoadAtlas

namespace Text

/-- A run of consecutive unpaired surrogates: the first of them, the code point position where
the run starts and the position after it. -/
structure SurrogateRun where
  first : Fin 0x800
  start : Nat
  stop : Nat
deriving DecidableEq, Repr

/-- The first run of unpaired surrogates in symbols that start at position `i`. -/
def runFrom (i : Nat) : List Symbol → Option SurrogateRun
  | [] => none
  | .char _ :: rest => runFrom (i + 1) rest
  | .surrogate k :: rest => some ⟨k, i, i + 1 + (rest.takeWhile Symbol.isSurrogate).length⟩

/-- The first run of unpaired surrogates in a text. -/
def surrogateRun? (s : String) : Option SurrogateRun := runFrom 0 (symbols s)

/-- The message of text whose UTF-8 form fails at a run of unpaired surrogates. -/
def SurrogateRun.message (r : SurrogateRun) : String :=
  let what :=
    if r.stop = r.start + 1 then
      "character '\\u" ++ hexDigits (0xD800 + r.first.val) 4 ++ "' in position " ++
        toString r.start
    else "characters in position " ++ toString r.start ++ "-" ++ toString (r.stop - 1)
  "'utf-8' codec can't encode " ++ what ++ ": surrogates not allowed"

/-- Succeeds when a text has a UTF-8 form, that is, holds no unpaired surrogate. -/
def checkUtf8 (s : String) : Except Failure Unit :=
  match surrogateRun? s with
  | some r => .error ⟨.unencodable, r.message⟩
  | none => .ok ()

theorem runFrom_chars (i : Nat) (cs : List Char) : runFrom i (cs.map Symbol.char) = none := by
  induction cs generalizing i with
  | nil => rfl
  | cons c rest ih => exact ih (i + 1)

theorem surrogateRun?_chars (cs : List Char) :
    surrogateRun? (encode (cs.map Symbol.char)) = none := by
  rw [surrogateRun?, symbols_encode]
  exact runFrom_chars 0 cs

end Text

end RoadAtlas
