import Lockstep.Proofs.Computation
import Lockstep.Proofs.Json.Texts

namespace Lockstep.Json

/-- How a character is written: by a letter behind a backslash, by its number, or as it is. -/
theorem escape_cases (c : Char) :
    (∃ e, escape c = ['\\', e] ∧ e ≠ 'u' ∧ simpleEscape? e = some c) ∨
      (c.toNat < 0x20 ∧
        escape c = ['\\', 'u', '0', '0', Nat.digitChar (c.toNat / 16), Nat.digitChar (c.toNat % 16)]) ∨
      (0x20 ≤ c.toNat ∧ c ≠ '"' ∧ c ≠ '\\' ∧ escape c = [c]) := by
  unfold escape
  split
  · exact Or.inl ⟨'"', rfl, by decide, rfl⟩
  · exact Or.inl ⟨'\\', rfl, by decide, rfl⟩
  · exact Or.inl ⟨'b', rfl, by decide, rfl⟩
  · exact Or.inl ⟨'f', rfl, by decide, rfl⟩
  · exact Or.inl ⟨'n', rfl, by decide, rfl⟩
  · exact Or.inl ⟨'r', rfl, by decide, rfl⟩
  · exact Or.inl ⟨'t', rfl, by decide, rfl⟩
  · rename_i hquote hbackslash _ _ _ _ _
    split
    · rename_i hlow
      exact Or.inr (Or.inl ⟨hlow, rfl⟩)
    · rename_i hlow
      exact Or.inr (Or.inr ⟨Nat.le_of_not_lt hlow, hquote, hbackslash, rfl⟩)

theorem digit?_digitChar {d : ℕ} (hd : d < 16) : Hex.digit? (Nat.digitChar d) = some d := by
  have hall : ∀ d : Fin 16, Hex.digit? (Nat.digitChar d) = some d.val := by decide
  exact hall ⟨d, hd⟩

theorem codeUnit_digitChar {n : ℕ} (hn : n < 0x20) (rest : List Char) :
    codeUnit ('0' :: '0' :: Nat.digitChar (n / 16) :: Nat.digitChar (n % 16) :: rest) =
      .ok (n, rest) := by
  have hhigh : Hex.digit? (Nat.digitChar (n / 16)) = some (n / 16) := digit?_digitChar (by omega)
  have hlow : Hex.digit? (Nat.digitChar (n % 16)) = some (n % 16) := digit?_digitChar (by omega)
  have hzero : Hex.digit? '0' = some 0 := rfl
  have hvalue : Hex.value [0, 0, n / 16, n % 16] = n := by
    show 16 * (16 * (16 * (16 * 0 + 0) + 0) + n / 16) + n % 16 = n
    omega
  simp only [codeUnit, List.mapM_cons, List.mapM_nil, hzero, hhigh, hlow, Option.pure_def,
    Option.bind_eq_bind, Option.bind_some, hvalue]

theorem characters_escape (c d : Char) (bound tail : List Char) :
    characters (d :: bound) (escape c ++ tail) =
      (characters bound tail).map fun (s, rest) => (c :: s, rest) := by
  obtain ⟨e, hescape, hu, he⟩ | ⟨hlow, hescape⟩ | ⟨hlow, hquote, hbackslash, hescape⟩ := escape_cases c
  · have hseq : escapeSequence (e :: tail) = .ok (c, tail) := by
      unfold escapeSequence
      split
      · rename_i heq
        cases heq
      · rename_i heq
        cases heq
        exact absurd rfl hu
      · rename_i heq
        cases heq
        rw [he]
    rw [hescape]
    simp only [characters, List.cons_append, List.nil_append, hseq]
  · have hseq : escapeSequence ('u' :: '0' :: '0' :: Nat.digitChar (c.toNat / 16) ::
        Nat.digitChar (c.toNat % 16) :: tail) = .ok (c, tail) := by
      have htrailing : isTrailing c.toNat = false := by
        rw [isTrailing, decide_eq_false (by omega), Bool.false_and]
      have hleading : isLeading c.toNat = false := by
        rw [isLeading, decide_eq_false (by omega), Bool.false_and]
      simp only [escapeSequence, unicodeEscape, codeUnit_digitChar hlow, htrailing, hleading]
      simp [Char.ofNat_toNat]
    rw [hescape]
    simp only [characters, List.cons_append, List.nil_append, hseq]
  · rw [hescape, List.singleton_append, characters, if_neg (Nat.not_lt.mpr hlow)]
    · exact hquote
    · exact hbackslash

theorem length_le_escapes (cs : List Char) : cs.length ≤ (cs.flatMap escape).length := by
  induction cs with
  | nil => exact Nat.le_refl 0
  | cons c cs ih =>
    have hpos : 1 ≤ (escape c).length := by
      obtain ⟨_, hescape, -⟩ | ⟨-, hescape⟩ | ⟨-, -, -, hescape⟩ := escape_cases c
      all_goals
        rw [hescape]
        simp only [List.length_cons, List.length_nil]
        omega
    rw [List.flatMap_cons, List.length_append, List.length_cons]
    omega

theorem characters_escapes {cs bound : List Char} (hbound : cs.length < bound.length)
    (rest : List Char) : characters bound (cs.flatMap escape ++ '"' :: rest) = .ok (cs, rest) := by
  -- the bound falls with the characters of the text, however many each of them is written with
  induction cs generalizing bound with
  | nil =>
    cases bound with
    | nil => cases hbound
    | cons => rfl
  | cons c cs ih =>
    cases bound with
    | nil => cases hbound
    | cons d bound =>
      rw [List.flatMap_cons, List.append_assoc, characters_escape, ih (Nat.lt_of_succ_lt_succ hbound)]
      rfl

/-- A text is read up to its closing quote, which no character of it can be taken for. -/
theorem textTail_escapes (s : String) (rest : List Char) :
    textTail (s.toList.flatMap escape ++ '"' :: rest) = .ok (s, rest) := by
  have hle := length_le_escapes s.toList
  have hbound : s.toList.length < (s.toList.flatMap escape ++ '"' :: rest).length := by
    rw [List.length_append, List.length_cons]
    omega
  rw [textTail, characters_escapes hbound]
  exact congrArg (fun t => Except.ok (t, rest)) String.ofList_toList

theorem quoted_append (s : String) (rest : List Char) :
    quoted s ++ rest = '"' :: (s.toList.flatMap escape ++ '"' :: rest) := by
  rw [quoted, List.cons_append, List.cons_append, List.append_assoc, List.singleton_append]

/-- What is not taken for more digits. -/
def NoDigit (cs : List Char) : Prop := ∀ c ∈ cs.head?, c.isDigit = false

theorem NoDigit.of_cons {c : Char} (hc : c.isDigit = false) (cs : List Char) : NoDigit (c :: cs) := by
  rintro _ ⟨⟩
  exact hc

/-- What is not taken for more of a number. -/
def Ends (cs : List Char) : Prop := NoDigit cs ∧ ∀ c ∈ cs.head?, c ≠ '.' ∧ c ≠ 'e' ∧ c ≠ 'E'

theorem digits_eq (n : ℕ) :
    ∃ c cs, Decimal.digits n = c :: cs ∧ c.isDigit = true ∧ (c = '0' → n = 0 ∧ cs = []) := by
  induction n using Nat.strongRecOn with
  | ind n ih =>
    have heq : Decimal.digits n = _ := Nat.toDigits_eq_if (by decide)
    by_cases hn : n < 10
    · rw [if_pos hn] at heq
      refine ⟨_, _, heq, ?_, ?_⟩
      · rw [Nat.isDigit_digitChar]
        exact decide_eq_true hn
      · exact fun hc => ⟨Nat.digitChar_eq_zero.mp hc, rfl⟩
    · rw [if_neg hn] at heq
      obtain ⟨c, cs, hcs, hdigit, hzero⟩ := ih (n / 10) (by omega)
      refine ⟨c, cs ++ [(n % 10).digitChar], ?_, hdigit, ?_⟩
      · rw [heq, ← List.cons_append, ← hcs]
        rfl
      · intro hc
        have := (hzero hc).1
        omega

theorem isDigit_of_mem_digits {n : ℕ} {c : Char} (hc : c ∈ Decimal.digits n) : c.isDigit = true :=
  Nat.isDigit_of_mem_toDigits (by decide) (by decide) hc

theorem value_digits (n : ℕ) : Numeral.value 0 (Decimal.digits n) = n :=
  Nat.ofDigitChars_ten_toDigits

theorem takeWhile_digits {ds rest : List Char} (hds : ∀ c ∈ ds, c.isDigit = true)
    (hrest : NoDigit rest) :
    (ds ++ rest).takeWhile Char.isDigit = ds ∧ (ds ++ rest).dropWhile Char.isDigit = rest := by
  have htake : rest.takeWhile Char.isDigit = [] ∧ rest.dropWhile Char.isDigit = rest := by
    cases rest with
    | nil => exact ⟨rfl, rfl⟩
    | cons c rest =>
      have hc : ¬ c.isDigit = true := by
        rw [hrest c rfl]
        exact Bool.false_ne_true
      exact ⟨List.takeWhile_cons_of_neg hc, List.dropWhile_cons_of_neg hc⟩
  rw [List.takeWhile_append_of_pos hds, List.dropWhile_append_of_pos hds, htake.1, htake.2,
    List.append_nil]
  exact ⟨rfl, rfl⟩

/-- Digits that a number may begin with: a zero stands alone. -/
structure Leading (ds : List Char) : Prop where
  digits : ∀ c ∈ ds, c.isDigit = true
  head : ∃ c cs, ds = c :: cs ∧ (c = '0' → cs = [])

theorem leading_digits (n : ℕ) : Leading (Decimal.digits n) := by
  obtain ⟨c, cs, hcs, -, hzero⟩ := digits_eq n
  exact ⟨fun _ hc => isDigit_of_mem_digits hc, c, cs, hcs, fun hc => (hzero hc).2⟩

theorem Leading.single {c : Char} (hc : c.isDigit = true) : Leading [c] := by
  refine ⟨fun d hd => ?_, c, [], rfl, fun _ => rfl⟩
  rwa [List.mem_singleton.mp hd]

/-- The digits that a number begins with are taken all at once. -/
theorem number_digits (negative : Bool) {ds rest : List Char} (hds : Leading ds) (hrest : NoDigit rest) :
    number negative (ds ++ rest) = fractionAndExponent negative ds rest := by
  obtain ⟨htake, hdrop⟩ := takeWhile_digits hds.digits hrest
  obtain ⟨c, cs, rfl, hzero⟩ := hds.head
  have hdigit : c.isDigit = true := hds.digits c List.mem_cons_self
  by_cases hc : c = '0'
  · rw [hzero hc, hc, List.singleton_append]
    cases rest with
    | nil => rfl
    | cons d rest =>
      have hd : d.isDigit = false := hrest d rfl
      simp only [number, hd, Bool.false_eq_true, ↓reduceIte]
  · rw [List.cons_append] at htake hdrop
    rw [List.cons_append, number]
    · rw [if_pos hdigit, htake, hdrop]
    · exact hc

/-- A number of which only digits are written is whole. -/
theorem fractionAndExponent_ends (negative : Bool) (ds : List Char) {rest : List Char}
    (hrest : Ends rest) :
    fractionAndExponent negative ds rest =
      .ok (⟨⟨negative, Numeral.value 0 ds, 0⟩, true⟩, rest) := by
  cases rest with
  | nil => simp [fractionAndExponent]
  | cons c rest =>
    obtain ⟨hpoint, hlower, hupper⟩ := hrest.2 c rfl
    simp [fractionAndExponent, hpoint, hlower, hupper]

/-- The text of a float begins with its sign or a digit. One that is not finite is written as null. -/
theorem float_head (x : Float) :
    ∃ c tail, Shortest.json x = c :: tail ∧ (c = '-' ∨ c = 'n' ∨ c.isDigit = true) := by
  have hsign (negative : Bool) {text : List Char}
      (h : ∃ c tail, text = c :: tail ∧ c.isDigit = true) :
      ∃ c tail, (if negative then '-' :: text else text) = c :: tail ∧
        (c = '-' ∨ c = 'n' ∨ c.isDigit = true) := by
    obtain ⟨c, tail, rfl, hc⟩ := h
    cases negative with
    | true => exact ⟨'-', _, rfl, Or.inl rfl⟩
    | false => exact ⟨c, tail, rfl, Or.inr (Or.inr hc)⟩
  -- every layout begins with digits of the number
  have hdigits (n : ℕ) (more : List Char) :
      ∃ c tail, Decimal.digits n ++ more = c :: tail ∧ c.isDigit = true := by
    obtain ⟨c, cs, hcs, hc, -⟩ := digits_eq n
    exact ⟨c, cs ++ more, by rw [hcs, List.cons_append], hc⟩
  have hpositional (d : Shortest.Decimal) (more : List Char) :
      ∃ c tail, d.positional ++ more = c :: tail ∧ c.isDigit = true := by
    unfold Shortest.Decimal.positional
    split
    · unfold Decimal.scaled
      dsimp only
      split
      · exact hdigits _ _
      · rw [List.append_assoc]
        exact hdigits _ _
    · exact hdigits _ _
  unfold Shortest.json
  dsimp only
  split
  · exact hsign _ ⟨'0', _, rfl, rfl⟩
  · refine hsign _ ?_
    split
    · unfold Shortest.Decimal.scientific
      obtain ⟨c, cs, hcs, hc, -⟩ := digits_eq (Shortest.shortest .toEven _ _).digits
      rw [hcs]
      cases cs with
      | nil => exact ⟨c, _, rfl, hc⟩
      | cons => exact ⟨c, _, rfl, hc⟩
    · split
      · have h := hpositional (Shortest.shortest .toEven ‹_› ‹_›) []
        rwa [List.append_nil] at h
      · exact hpositional _ _
  · exact ⟨'n', _, rfl, Or.inr (Or.inl rfl)⟩

end Lockstep.Json
