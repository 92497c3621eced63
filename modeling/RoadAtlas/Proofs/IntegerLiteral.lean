import Mathlib.Data.List.TakeWhile
import RoadAtlas.Proofs.CoordinateText

/-!
# Integer literals

`readInteger` is described here by a grammar. A literal is an optional sign and a run of decimal
digits of any script, at most `maxDigits` of them, where a single underscore may stand between
two digits (`Literal`); `White_Space` may stand around it (`Padded`). The main result,
`readInteger_eq_ok_iff`, says that `readInteger` reads exactly the padded literals, each as its
value.

The proof follows the reader. The blanks it skips are the `White_Space` characters
(`isIntegerBlank_eq_isWhiteSpace`), and no digit is one of them (`isBlank_of_digitValue`), so the
skipped blanks are the padding in front. The digit scanner is a machine of two states, telling
whether a digit must come next; each state reads one grammar (`DigitRun` when a digit must come,
`DigitTail` after a digit), and the scanner stops only in front of a character that is neither a
digit nor an underscore (`scanDigits_eq_some_iff`). The sign is taken off before the scan, and the
text after the run must be blank.

## Main definitions

* `IntegerText.DigitTail`, `IntegerText.DigitRun`: runs of digits, with their values.
* `IntegerText.Literal`, `IntegerText.Padded`: integer literals, bare and with blanks around.

## Main results

* `scanDigits_eq_some_iff`: what the digit scanner reads from each state.
* `readInteger_eq_ok_iff`: the reader accepts exactly the padded literals.
* `padded_iff_literal`: text with no blank at its ends is padded only by nothing.
* `literal_toString`: the decimal numeral of an integer of at most `maxDigits` digits is a
  literal of it.
-/

namespace RoadAtlas

namespace IntegerText

open Text

/-! ## The grammar -/

/-- The digits of a run after its first one, with their values: each digit may follow a single
underscore. -/
inductive DigitTail : List Char → List Nat → Prop
  | nil : DigitTail [] []
  | digit {c v cs vs} : digitValue? c = some v → DigitTail cs vs → DigitTail (c :: cs) (v :: vs)
  | underscore {c v cs vs} : digitValue? c = some v → DigitTail cs vs →
      DigitTail ('_' :: c :: cs) (v :: vs)

/-- A run of decimal digits with their values: a digit, then a `DigitTail`, so that every
underscore stands between two digits. -/
inductive DigitRun : List Char → List Nat → Prop
  | mk {c v cs vs} : digitValue? c = some v → DigitTail cs vs → DigitRun (c :: cs) (v :: vs)

/-- What the digit scanner reads from a state: a whole run where a digit must come first, the
tail of a run after a digit. -/
def Scanned : Bool → List Char → List Nat → Prop
  | true => DigitRun
  | false => DigitTail

/-- The scanner stops in front of `tail`: it is empty or starts with a character that is neither
a digit nor an underscore. -/
def Stops (tail : List Char) : Prop := ∀ c ∈ tail.head?, pieceOf c = .other

/-- An integer literal with its value: an optional sign, then a run of at most `maxDigits`
digits. -/
inductive Literal : List Char → Int → Prop
  | unsigned {cs vs} : DigitRun cs vs → vs.length ≤ maxDigits → Literal cs (digitsValue vs)
  | plus {cs vs} : DigitRun cs vs → vs.length ≤ maxDigits →
      Literal ('+' :: cs) (digitsValue vs)
  | minus {cs vs} : DigitRun cs vs → vs.length ≤ maxDigits →
      Literal ('-' :: cs) (-(digitsValue vs : Int))

/-- An integer literal with `White_Space` before and after it. -/
inductive Padded : List Char → Int → Prop
  | mk {pre lit post n} : (∀ c ∈ pre, isWhiteSpace c) → Literal lit n →
      (∀ c ∈ post, isWhiteSpace c) → Padded (pre ++ lit ++ post) n

/-! ## Characters -/

private theorem char_le_iff {a b : Char} : a ≤ b ↔ a.toNat ≤ b.toNat :=
  Char.le_def.trans UInt32.le_iff_toNat_le

/-- The blanks around a literal are exactly the `White_Space` characters. -/
theorem isIntegerBlank_eq_isWhiteSpace (c : Char) : isIntegerBlank c = isWhiteSpace c := by
  -- below `0x7F` both sides depend on the code point alone, and are compared code by code
  have hAscii : ∀ n < 0x7F, (n = 32 || (9 ≤ n && n ≤ 13)) =
      (blankRanges.any (fun r => r.1 ≤ n && n ≤ r.2) && !(0x1C ≤ n && n ≤ 0x1F)) := by
    decide
  unfold isIntegerBlank isWhiteSpace isBlank
  split
  · next h =>
    have hCodes : (c = ' ' || ('\t' ≤ c && c ≤ '\r')) =
        (c.toNat = 32 || (9 ≤ c.toNat && c.toNat ≤ 13)) := by
      simp only [← Char.toNat_inj, char_le_iff]
      rfl
    rw [hCodes]
    exact hAscii c.toNat h
  · next h =>
    have hSep : (0x1C ≤ c.toNat && c.toNat ≤ 0x1F) = false := by
      simp only [Bool.and_eq_false_iff, decide_eq_false_iff_not]
      omega
    rw [hSep, Bool.not_false, Bool.and_true]

/-- Below the first non-ASCII digit zero only `0`..`9` are digits. -/
theorem digitValue_eq_asciiDigit {c : Char} (h : c.toNat < 0x660) :
    digitValue? c = asciiDigit? c := by
  have hLater : ∀ z ∈ digitZeros.tail, 0x660 ≤ z := by decide
  have hNone : (digitZeros.tail.findSome? fun z =>
      if z ≤ c.toNat && c.toNat < z + 10 then some (c.toNat - z) else none) = none := by
    rw [List.findSome?_eq_none_iff]
    intro z hz
    have := hLater z hz
    simp only [ite_eq_right_iff, reduceCtorEq, imp_false, Bool.and_eq_true, decide_eq_true_eq]
    omega
  have hSplit : digitZeros = 0x30 :: digitZeros.tail := rfl
  have h0 : '0'.toNat = 48 := rfl
  have h9 : '9'.toNat = 57 := rfl
  unfold digitValue? asciiDigit?
  rw [hSplit, List.findSome?_cons, hNone]
  simp only [char_le_iff, h0, h9]
  by_cases hd : 48 ≤ c.toNat ∧ c.toNat ≤ 57
  · simp [hd.1, hd.2, show c.toNat < 48 + 10 by omega]
  · have hd' : ¬(48 ≤ c.toNat ∧ c.toNat < 48 + 10) := by omega
    simp only [Bool.and_eq_true, decide_eq_true_eq, hd, hd', if_false]

/-- No digit is blank. -/
theorem isBlank_of_digitValue {c : Char} {v : Nat} (h : digitValue? c = some v) :
    isBlank c = false := by
  have hApart : ∀ z ∈ digitZeros, ∀ r ∈ blankRanges, r.2 < z ∨ z + 10 ≤ r.1 := by decide
  obtain ⟨z, hz, hfz⟩ := List.exists_of_findSome?_eq_some h
  have hIn : z ≤ c.toNat ∧ c.toNat < z + 10 := by
    split at hfz
    · next hIf => simpa using hIf
    · contradiction
  unfold isBlank
  rw [List.any_eq_false]
  intro r hr hIn'
  have := hApart z hz r hr
  simp only [Bool.and_eq_true, decide_eq_true_eq] at hIn'
  omega

theorem pieceOf_eq_underscore_iff {c : Char} : pieceOf c = .underscore ↔ c = '_' := by
  unfold pieceOf
  split
  · simp_all
  · split <;> split <;> simp_all

theorem pieceOf_eq_digit_iff {c : Char} {v : Nat} :
    pieceOf c = .digit v ↔ digitValue? c = some v := by
  unfold pieceOf
  split
  · next h =>
    subst h
    have hNone : digitValue? '_' = none := by decide
    simp [hNone]
  · next h =>
    split
    · next hAscii =>
      rw [digitValue_eq_asciiDigit (by omega)]
      split <;> simp_all
    · split <;> simp_all

theorem pieceOf_of_isWhiteSpace {c : Char} (h : isWhiteSpace c) : pieceOf c = .other := by
  have hBlank : isBlank c = true := by
    unfold isWhiteSpace at h
    simp_all
  cases hPiece : pieceOf c with
  | digit v =>
    rw [pieceOf_eq_digit_iff] at hPiece
    rw [isBlank_of_digitValue hPiece] at hBlank
    contradiction
  | underscore =>
    rw [pieceOf_eq_underscore_iff] at hPiece
    subst hPiece
    contradiction
  | other => rfl

/-! ## The digit scanner -/

theorem scanDigits_digit {c : Char} {v : Nat} {cs : List Char} {vs : List Nat} {tail : List Char}
    (u : Bool) (hc : digitValue? c = some v) (hs : scanDigits false cs = some (vs, tail)) :
    scanDigits u (c :: cs) = some (v :: vs, tail) := by
  unfold scanDigits at hs ⊢
  rw [scanDigitsWith, pieceOf_eq_digit_iff.mpr hc]
  simp only [hs, Option.map_some]

theorem scanDigits_underscore (cs : List Char) :
    scanDigits false ('_' :: cs) = scanDigits true cs := by
  unfold scanDigits
  rw [scanDigitsWith, pieceOf_eq_underscore_iff.mpr rfl]
  rfl

theorem scanDigits_of_stops {tail : List Char} (h : Stops tail) :
    scanDigits false tail = some ([], tail) := by
  cases tail with
  | nil => rfl
  | cons c rest =>
    unfold scanDigits
    rw [scanDigitsWith, h c rfl]
    rfl

theorem scanDigits_of_digitTail {run tail : List Char} {vs : List Nat} (h : DigitTail run vs)
    (hStop : Stops tail) : scanDigits false (run ++ tail) = some (vs, tail) := by
  induction h with
  | nil => exact scanDigits_of_stops hStop
  | digit hc _ ih => exact scanDigits_digit false hc ih
  | underscore hc _ ih =>
    rw [List.cons_append, scanDigits_underscore]
    exact scanDigits_digit true hc ih

theorem scanDigits_of_digitRun {run tail : List Char} {vs : List Nat} (h : DigitRun run vs)
    (hStop : Stops tail) : scanDigits true (run ++ tail) = some (vs, tail) := by
  cases h with
  | mk hc ht => exact scanDigits_digit true hc (scanDigits_of_digitTail ht hStop)

/-- What the scanner reads: from either state it stops only where `Stops` holds, and the text in
front is what that state's grammar describes. -/
theorem scanned_of_scanDigits (u : Bool) (body tail : List Char) (vs : List Nat)
    (h : scanDigits u body = some (vs, tail)) :
    ∃ run, body = run ++ tail ∧ Scanned u run vs ∧ Stops tail := by
  induction body generalizing u vs with
  | nil =>
    cases u with
    | true => exact absurd h (by simp [scanDigits, scanDigitsWith])
    | false =>
      obtain ⟨rfl, rfl⟩ : vs = [] ∧ tail = [] := by
        simpa [scanDigits, scanDigitsWith] using h.symm
      exact ⟨[], rfl, .nil, fun _ hc => nomatch hc⟩
  | cons c rest ih =>
    unfold scanDigits at h
    rw [scanDigitsWith] at h
    -- one case per piece, as the scanner reads them
    cases hPiece : pieceOf c with
    | digit v =>
      rw [hPiece] at h
      obtain ⟨⟨vs', tail'⟩, hRest, hEq⟩ := Option.map_eq_some_iff.mp h
      simp only [Prod.mk.injEq] at hEq
      obtain ⟨rfl, rfl⟩ := hEq
      obtain ⟨run, rfl, hTail, hStop⟩ := ih false vs' hRest
      have hc := pieceOf_eq_digit_iff.mp hPiece
      refine ⟨c :: run, rfl, ?_, hStop⟩
      cases u with
      | true => exact .mk hc hTail
      | false => exact .digit hc hTail
    | underscore =>
      rw [hPiece] at h
      cases u with
      | true => exact absurd h (by simp)
      | false =>
        obtain ⟨run, rfl, hRun, hStop⟩ := ih true vs h
        cases hRun with
        | mk hc hTail =>
          rw [pieceOf_eq_underscore_iff.mp hPiece]
          exact ⟨_, rfl, .underscore hc hTail, hStop⟩
    | other =>
      rw [hPiece] at h
      cases u with
      | true => exact absurd h (by simp)
      | false =>
        simp only [Bool.false_eq_true, if_false, Option.some.injEq, Prod.mk.injEq] at h
        obtain ⟨rfl, rfl⟩ := h
        exact ⟨[], rfl, .nil, fun d hd => by
          rw [List.head?_cons, Option.mem_some_iff] at hd
          rw [← hd, hPiece]⟩

theorem scanDigits_eq_some_iff (u : Bool) (body tail : List Char) (vs : List Nat) :
    scanDigits u body = some (vs, tail) ↔
      ∃ run, body = run ++ tail ∧ Scanned u run vs ∧ Stops tail := by
  constructor
  · exact scanned_of_scanDigits u body tail vs
  · rintro ⟨run, rfl, hRun, hStop⟩
    cases u with
    | true => exact scanDigits_of_digitRun hRun hStop
    | false => exact scanDigits_of_digitTail hRun hStop

/-! ## The reader -/

theorem stops_of_whiteSpace {post : List Char} (h : ∀ c ∈ post, isWhiteSpace c) : Stops post :=
  fun c hc => pieceOf_of_isWhiteSpace (h c (List.mem_of_mem_head? hc))

/-- A literal starts with a sign or a digit, never with `White_Space`. -/
theorem Literal.exists_cons {lit : List Char} {n : Int} (h : Literal lit n) :
    ∃ c rest, lit = c :: rest ∧ isWhiteSpace c = false := by
  have hDigit : ∀ {c v}, digitValue? c = some v → isWhiteSpace c = false := fun hc => by
    rw [isWhiteSpace, isBlank_of_digitValue hc, Bool.false_and]
  cases h with
  | unsigned hRun _ => cases hRun with | mk hc _ => exact ⟨_, _, rfl, hDigit hc⟩
  | plus _ _ => exact ⟨_, _, rfl, by decide⟩
  | minus _ _ => exact ⟨_, _, rfl, by decide⟩

theorem dropWhile_padded {pre lit : List Char} {n : Int} (hPre : ∀ c ∈ pre, isWhiteSpace c)
    (hLit : Literal lit n) (post : List Char) :
    (pre ++ lit ++ post).dropWhile isIntegerBlank = lit ++ post := by
  obtain ⟨c, rest, rfl, hc⟩ := hLit.exists_cons
  have hBlank : isIntegerBlank = isWhiteSpace := funext isIntegerBlank_eq_isWhiteSpace
  rw [hBlank, List.append_assoc, List.dropWhile_append_of_pos hPre, List.cons_append,
    List.dropWhile_cons_of_neg (by simp [hc])]

theorem DigitRun.values_ne_nil {run : List Char} {vs : List Nat} (h : DigitRun run vs) :
    vs ≠ [] := by
  cases h with
  | mk _ _ => exact List.cons_ne_nil _ _

theorem all_isIntegerBlank {post : List Char} (h : ∀ c ∈ post, isWhiteSpace c) :
    post.all isIntegerBlank = true := by
  rw [List.all_eq_true]
  intro c hc
  rw [isIntegerBlank_eq_isWhiteSpace]
  exact h c hc

/-- A padded literal reads as its value. -/
theorem readInteger_of_padded {s : String} {n : Int} (h : Padded s.toList n) :
    readInteger s = .ok n := by
  generalize hcs : s.toList = cs at h
  cases h with
  | mk hPre hLit hPost =>
  have hStop := stops_of_whiteSpace hPost
  have hAll := all_isIntegerBlank hPost
  unfold readInteger
  dsimp only
  rw [hcs, dropWhile_padded hPre hLit]
  -- take the sign off, then read the run as in every case
  cases hLit with
  | plus hRun hLen =>
    rw [List.cons_append]
    simp only
    rw [scanDigits_of_digitRun hRun hStop]
    simp only
    rw [if_neg (Nat.not_lt.mpr hLen)]
    simp [hRun.values_ne_nil, hAll]
  | minus hRun hLen =>
    rw [List.cons_append]
    simp only
    rw [scanDigits_of_digitRun hRun hStop]
    simp only
    rw [if_neg (Nat.not_lt.mpr hLen)]
    simp [hRun.values_ne_nil, hAll]
  | unsigned hRun hLen =>
    cases hRun with
    | mk hc hTail =>
    rename_i c v cs vs
    rw [List.cons_append]
    have hPlus : c ≠ '+' := fun h => by
      subst h
      rw [show digitValue? '+' = none by decide] at hc
      contradiction
    have hMinus : c ≠ '-' := fun h => by
      subst h
      rw [show digitValue? '-' = none by decide] at hc
      contradiction
    simp (disch := simp [hPlus, hMinus]) only
    rw [← List.cons_append, scanDigits_of_digitRun (.mk hc hTail) hStop]
    simp only
    rw [if_neg (Nat.not_lt.mpr hLen)]
    simp [hAll]

/-- What `readInteger` reads is a padded literal, and the value is the literal's. -/
theorem padded_of_readInteger {s : String} {n : Int} (h : readInteger s = .ok n) :
    Padded s.toList n := by
  have hBlank : isIntegerBlank = isWhiteSpace := funext isIntegerBlank_eq_isWhiteSpace
  have hPre : ∀ c ∈ s.toList.takeWhile isIntegerBlank, isWhiteSpace c := fun c hc => by
    rw [← hBlank]
    exact List.mem_takeWhile_imp hc
  have hSplit := List.takeWhile_append_dropWhile (p := isIntegerBlank) (l := s.toList)
  unfold readInteger at h
  dsimp only at h
  generalize s.toList.dropWhile isIntegerBlank = cs at h hSplit
  -- the scan succeeds and every check after it passes
  split at h
  · contradiction
  next ds tail hScan =>
  split at h
  · contradiction
  next hLen =>
  split at h
  · contradiction
  next hNe =>
  split at h
  · contradiction
  next hTail =>
  have hPost : ∀ c ∈ tail, isWhiteSpace c := by
    rw [← hBlank]
    simpa using hTail
  have hLen' : ds.length ≤ maxDigits := Nat.not_lt.mp hLen
  -- the sign decides the literal's constructor
  split at hScan
  · obtain ⟨run, rfl, hRun, -⟩ := scanned_of_scanDigits true _ _ _ hScan
    simp only [Except.ok.injEq] at h
    rw [← hSplit, ← h]
    simpa using Padded.mk hPre (.plus hRun hLen') hPost
  · obtain ⟨run, rfl, hRun, -⟩ := scanned_of_scanDigits true _ _ _ hScan
    simp only [Except.ok.injEq] at h
    rw [← hSplit, ← h]
    simpa using Padded.mk hPre (.minus hRun hLen') hPost
  · rename_i hNotPlus hNotMinus
    obtain ⟨run, rfl, hRun, -⟩ := scanned_of_scanDigits true _ _ _ hScan
    simp (disch := assumption) only [Except.ok.injEq, Bool.false_eq_true, if_false] at h
    rw [← hSplit, ← h]
    simpa using Padded.mk hPre (.unsigned hRun hLen') hPost

/-- `readInteger` reads exactly the padded literals, each as its value. -/
theorem readInteger_eq_ok_iff (s : String) (n : Int) :
    readInteger s = .ok n ↔ Padded s.toList n :=
  ⟨padded_of_readInteger, readInteger_of_padded⟩

example : readInteger " ٤_٢ " = .ok 42 := by decide

theorem Literal.padded {cs : List Char} {n : Int} (h : Literal cs n) : Padded cs n := by
  have hEnds : cs = [] ++ cs ++ [] := by simp
  rw [hEnds]
  exact Padded.mk (by simp) h (by simp)

/-- A padded literal has one value. -/
theorem Padded.unique {cs : List Char} {n m : Int} (hn : Padded cs n) (hm : Padded cs m) :
    n = m := by
  rw [← String.toList_ofList (l := cs), ← readInteger_eq_ok_iff] at hn hm
  rw [hn] at hm
  exact Except.ok.inj hm

/-- Text without `White_Space` at either end is padded only by nothing. -/
theorem padded_iff_literal {cs : List Char} {n : Int}
    (hHead : ∀ c ∈ cs.head?, isWhiteSpace c = false)
    (hLast : ∀ c ∈ cs.getLast?, isWhiteSpace c = false) : Padded cs n ↔ Literal cs n := by
  constructor
  · rintro ⟨hPre, hLit, hPost⟩
    rename_i pre lit post
    obtain ⟨c, rest, rfl, -⟩ := hLit.exists_cons
    have hPreNil : pre = [] := by
      cases pre with
      | nil => rfl
      | cons d ds =>
        have := hHead d (by simp)
        simp [hPre d (by simp)] at this
    have hPostNil : post = [] := by
      rcases List.eq_nil_or_concat post with h | ⟨ds, d, rfl⟩
      · exact h
      · have hEnd : d ∈ (pre ++ c :: rest ++ ds.concat d).getLast? := by
          rw [List.concat_eq_append, ← List.append_assoc, List.getLast?_concat]
          rfl
        have := hLast d hEnd
        simp [hPost d (by simp)] at this
    subst hPreNil hPostNil
    simpa using hLit
  · exact Literal.padded

/-! ## Written integers -/

theorem digitValue_of_isDigit {c : Char} (h : c.isDigit) : digitValue? c = some (c.toNat - 48) := by
  have hRange : 48 ≤ c.toNat ∧ c.toNat ≤ 57 := by
    simpa [Char.isDigit, UInt32.le_iff_toNat_le] using h
  rw [digitValue_eq_asciiDigit (by omega), asciiDigit?, if_pos]
  · rfl
  · simpa [char_le_iff] using hRange

theorem digitTail_of_isDigit {cs : List Char} (h : ∀ c ∈ cs, c.isDigit) :
    DigitTail cs (Coordinate.digitValues cs) := by
  induction cs with
  | nil => exact .nil
  | cons c cs ih =>
    exact .digit (digitValue_of_isDigit (h c (by simp))) (ih fun d hd => h d (by simp [hd]))

theorem digitRun_toDigits (m : Nat) :
    DigitRun (Nat.toDigits 10 m) (Coordinate.digitValues (Nat.toDigits 10 m)) := by
  have hDigits : ∀ c ∈ Nat.toDigits 10 m, c.isDigit := fun c hc =>
    Nat.isDigit_of_mem_toDigits (by decide) (by decide) hc
  obtain ⟨c, cs, hcs⟩ := List.exists_cons_of_ne_nil (Nat.toDigits_ne_nil (b := 10) (n := m))
  rw [hcs] at hDigits ⊢
  exact .mk (digitValue_of_isDigit (hDigits c (by simp)))
    (digitTail_of_isDigit fun d hd => hDigits d (by simp [hd]))

/-- The decimal numeral of an integer of at most `maxDigits` digits is a literal of it. -/
theorem literal_toString {n : Int} (h : n.natAbs < Nat.pow 10 maxDigits) :
    Literal (toString n).toList n := by
  have hLen : ∀ m, m < Nat.pow 10 maxDigits →
      (Coordinate.digitValues (Nat.toDigits 10 m)).length ≤ maxDigits := by
    intro m hm
    have hPos : 0 < maxDigits := by decide
    generalize maxDigits = k at hm hPos ⊢
    rw [Coordinate.digitValues, List.length_map, Nat.length_toDigits_le_iff (by decide) hPos,
      ← Nat.pow_eq]
    exact hm
  rw [Int.toString_eq_repr, Int.repr_eq_if]
  split
  · next hn =>
    rw [Nat.toList_repr]
    have := Literal.unsigned (digitRun_toDigits n.toNat) (hLen _ (by omega))
    rwa [Coordinate.digitsValue_toDigits, Int.toNat_of_nonneg hn] at this
  · next hn =>
    rw [String.toList_append, Nat.toList_repr]
    have := Literal.minus (digitRun_toDigits (-n).toNat) (hLen _ (by omega))
    rwa [Coordinate.digitsValue_toDigits, Int.toNat_of_nonneg (by omega), Int.neg_neg] at this

end IntegerText

end RoadAtlas
