import Lockstep.Proofs.Json.Lexemes
import Mathlib.Data.List.Forall2

namespace Lockstep.Json

/-- The reader takes the value from any text of `j`, whatever comes before and behind it. -/
def Reads {α : Type} (read : Reader α) (j : Json) (a : α) : Prop :=
  ∀ ⦃b cs rest⦄, Blanks b → Writes j cs → Ends rest → read (b ++ (cs ++ rest)) = .ok (a, rest)

theorem Ends.nil : Ends [] := ⟨nofun, nofun⟩

theorem Ends.of_cons {c : Char} {cs : List Char} (hdigit : c.isDigit = false)
    (hc : c ≠ '.' ∧ c ≠ 'e' ∧ c ≠ 'E') : Ends (c :: cs) := by
  refine ⟨.of_cons hdigit cs, ?_⟩
  rintro _ ⟨⟩
  exact hc

theorem isBlank_cases {c : Char} (hc : isBlank c = true) : c = ' ' ∨ c = '\n' ∨ c = '\t' ∨ c = '\r' := by
  simpa [isBlank, or_assoc] using hc

theorem isBlank_of_isDigit {c : Char} (hc : c.isDigit = true) : isBlank c = false := by
  refine Bool.eq_false_iff.mpr fun hblank => ?_
  obtain rfl | rfl | rfl | rfl := isBlank_cases hblank
  all_goals cases hc

theorem Ends.blanks_append {b cs : List Char} (hb : Blanks b) (hcs : Ends cs) : Ends (b ++ cs) := by
  cases b with
  | nil => exact hcs
  | cons c b =>
    obtain rfl | rfl | rfl | rfl := isBlank_cases (hb c List.mem_cons_self)
    all_goals exact .of_cons rfl (by decide)

/-- An element is followed by a comma or a bracket, with blanks before it. -/
theorem WritesItems.ends {items : List Json} {cs : List Char} (h : WritesItems false items cs)
    (rest : List Char) : Ends (cs ++ rest) := by
  cases h with
  | close _ hb =>
    rw [List.append_assoc]
    exact .blanks_append hb (.of_cons rfl (by decide))
  | item => exact .of_cons rfl (by decide)

theorem WritesMembers.ends {members : List (String × Json)} {cs : List Char}
    (h : WritesMembers false members cs) (rest : List Char) : Ends (cs ++ rest) := by
  cases h with
  | close _ hb =>
    rw [List.append_assoc]
    exact .blanks_append hb (.of_cons rfl (by decide))
  | member => exact .of_cons rfl (by decide)

/-- A text begins with a character that ends neither blanks nor a list. -/
theorem Writes.head {j : Json} {cs : List Char} (h : Writes j cs) :
    ∃ c tail, cs = c :: tail ∧ isBlank c = false ∧ c ≠ ']' := by
  have hdigit {c : Char} (hc : c.isDigit = true) : isBlank c = false ∧ c ≠ ']' := by
    refine ⟨isBlank_of_isDigit hc, ?_⟩
    rintro rfl
    cases hc
  cases h with
  | null => exact ⟨'n', _, rfl, rfl, by decide⟩
  | bool b => cases b <;> exact ⟨_, _, rfl, rfl, by decide⟩
  | nat n =>
    obtain ⟨c, tail, heq, hc, -⟩ := digits_eq n
    exact ⟨c, tail, heq, hdigit hc⟩
  | float x =>
    obtain ⟨c, tail, heq, rfl | rfl | hc⟩ := float_head x
    · exact ⟨_, tail, heq, rfl, by decide⟩
    · exact ⟨_, tail, heq, rfl, by decide⟩
    · exact ⟨c, tail, heq, hdigit hc⟩
  | text => exact ⟨'"', _, rfl, rfl, by decide⟩
  | list => exact ⟨'[', _, rfl, rfl, by decide⟩
  | record => exact ⟨'\x7b', _, rfl, rfl, by decide⟩

theorem Writes.skip {j : Json} {cs : List Char} (h : Writes j cs) (rest : List Char) :
    skipBlanks (cs ++ rest) = cs ++ rest := by
  obtain ⟨c, tail, rfl, hc, -⟩ := h.head
  exact skipBlanks_cons hc _

variable {α β : Type} (floats : FloatRule) {read : Reader α} {j k : Json} {a b : α}

theorem Reads.map {f : α × List Char → β × List Char} {b : β} (h : Reads read j a)
    (hf : ∀ rest, f (a, rest) = (b, rest)) : Reads (fun cs => (read cs).map f) j b := by
  intro bs cs rest hb hw hrest
  show (read (bs ++ (cs ++ rest))).map f = _
  rw [h hb hw hrest, ok_map, hf]

theorem Writes.text_cons {s : String} {cs : List Char} (h : Writes (.text s) cs) (rest : List Char) :
    skipBlanks (cs ++ rest) = '"' :: (s.toList.flatMap escape ++ '"' :: rest) := by
  cases h
  rw [quoted_append]
  exact skipBlanks_cons rfl _

theorem reads_text (s : String) : Reads (readText floats) (.text s) s := by
  intro bs cs rest hb hw hrest
  unfold readText
  rw [skipBlanks_append hb, hw.text_cons]
  exact textTail_escapes s rest

theorem reads_none (read : Reader α) : Reads (optional read) .null none := by
  intro bs cs rest hb hw hrest
  cases hw
  unfold optional
  rw [skipBlanks_append hb]
  rfl

/-- A text is not taken for null. -/
theorem reads_some {s : String} (h : Reads read (.text s) a) : Reads (optional read) (.text s) (some a) := by
  intro bs cs rest hb hw hrest
  have hread : read (skipBlanks (cs ++ rest)) = .ok (a, rest) := by
    rw [hw.skip]
    exact h .nil hw hrest
  rw [hw.text_cons] at hread
  unfold optional
  rw [skipBlanks_append hb, hw.text_cons]
  show (read _).map _ = _
  rw [hread]
  rfl

theorem nextElement_close (first : Bool) {b : List Char} (hb : Blanks b) (rest : List Char) :
    nextElement first (b ++ [']'] ++ rest) = .ok (.finished rest) := by
  unfold nextElement
  rw [List.append_assoc, skipBlanks_append hb]
  rfl

/-- The next element begins behind the blanks, and behind a comma if it is not the first one. -/
theorem nextElement_item (first : Bool) {b cs : List Char} (hb : Blanks b) (h : Writes j cs)
    (rest : List Char) :
    nextElement first ((if first then [] else [',']) ++ (b ++ (cs ++ rest))) = .ok (.entry (cs ++ rest)) := by
  have hskip : skipBlanks (b ++ (cs ++ rest)) = cs ++ rest := by
    rw [skipBlanks_append hb, h.skip]
  obtain ⟨c, tail, rfl, -, hc⟩ := h.head
  rw [List.cons_append] at hskip ⊢
  cases first with
  | true =>
    show nextElement true (b ++ _) = _
    unfold nextElement
    rw [hskip]
    simp
  | false =>
    show nextElement false (',' :: (b ++ _)) = _
    unfold nextElement
    rw [skipBlanks_cons rfl]
    simp [hskip, hc]

theorem WritesItems.length_lt {first : Bool} {items : List Json} {cs : List Char}
    (h : WritesItems first items cs) : items.length < cs.length := by
  induction items generalizing first cs with
  | nil =>
    cases h with
    | close => rw [List.length_append]; exact Nat.lt_add_left _ Nat.zero_lt_one
  | cons item items ih =>
    cases h with
    | item hb hw more =>
      obtain ⟨c, tail, rfl, -⟩ := hw.head
      have := ih more
      simp only [List.length_append, List.length_cons]
      omega

theorem elements_of_writes {items : List Json} {as : List α} (hread : List.Forall₂ (Reads read) items as)
    {first : Bool} {cs bound : List Char} (h : WritesItems first items cs)
    (hbound : items.length < bound.length) (rest : List Char) :
    elements read bound first (cs ++ rest) = .ok (as, rest) := by
  induction hread generalizing first cs bound with
  | nil =>
    cases bound with
    | nil => cases hbound
    | cons d bound =>
      cases h with
      | close _ hb =>
        rw [elements, nextElement_close first hb]
        rfl
  | @cons item a items as hitem _ ih =>
    cases bound with
    | nil => cases hbound
    | cons d bound =>
      cases h with
      | @item _ _ _ b cs tail hb hw more =>
        have hfirst := hitem .nil hw (more.ends rest)
        have hrest := ih more (Nat.lt_of_succ_lt_succ hbound)
        simp only [List.nil_append] at hfirst
        rw [elements, List.append_assoc, List.append_assoc, List.append_assoc,
          nextElement_item first hb hw, ok_bind]
        simp only [hfirst, hrest, ok_bind]

theorem reads_list {items : List Json} {as : List α} (h : List.Forall₂ (Reads read) items as) :
    Reads (readList floats read) (.list items) as := by
  intro bs cs rest hb hw hrest
  cases hw with
  | @list _ cs hitems =>
    have hbound : items.length < (cs ++ rest).length := by
      have := hitems.length_lt
      rw [List.length_append]
      omega
    unfold readList
    rw [skipBlanks_append hb, List.cons_append, skipBlanks_cons rfl]
    exact elements_of_writes h hitems hbound rest

theorem reads_pair (ha : Reads read j a) (hb : Reads read k b) :
    Reads (readPair floats read) (.list [j, k]) (a, b) := by
  intro bs _ rest hbs hw hrest
  cases hw with
  | list hitems =>
    cases hitems with
    | @item _ _ _ _ cs _ hb₁ hw₁ more₁ =>
      have hfirst := ha .nil hw₁ (more₁.ends rest)
      cases more₁ with
      | @item _ _ _ _ cs' _ hb₂ hw₂ more₂ =>
        have hsecond := hb .nil hw₂ (more₂.ends rest)
        cases more₂ with
        | @close b _ hb₃ =>
          have hnext := nextElement_item true hb₁ hw₁
          have hnext' := nextElement_item false hb₂ hw₂
          have hclose := nextElement_close false hb₃ rest
          simp only [List.nil_append, List.append_assoc] at hfirst hsecond hnext hnext' hclose
          unfold readPair
          rw [skipBlanks_append hbs, List.cons_append, skipBlanks_cons rfl]
          simp only [List.append_assoc, hnext, ok_bind, hfirst, hnext', hsecond, hclose]

theorem alternative_escapes {table : List (String × α)} {name : String} (h : table.lookup name = some a)
    (rest : List Char) :
    alternative table (name.toList.flatMap escape ++ '"' :: rest) = .ok (a, rest) := by
  rw [alternative, textTail_escapes, ok_bind]
  simp only [h]

theorem memberAlternative_quoted {table : List (String × α)} {name : String}
    (h : table.lookup name = some a) {b : List Char} (hb : Blanks b) (rest : List Char) :
    memberAlternative table (b ++ (quoted name ++ rest)) = .ok (a, rest) := by
  unfold memberAlternative
  rw [skipBlanks_append hb, quoted_append, skipBlanks_cons rfl]
  exact alternative_escapes h rest

theorem colon_cons (rest : List Char) : colon (':' :: rest) = .ok rest := by
  unfold colon
  rw [skipBlanks_cons rfl]
  rfl

theorem reads_oneOf {table : List (String × α)} {name : String} (h : table.lookup name = some a) :
    Reads (oneOf floats table) (.text name) a := by
  intro bs cs rest hb hw _
  unfold oneOf
  rw [skipBlanks_append hb, hw.text_cons]
  exact alternative_escapes h rest

theorem reads_tagged {table : List (String × Reader α)} {name : String}
    (h : table.lookup name = some read) (hread : Reads read j a) :
    Reads (tagged table) (.record [(name, j)]) a := by
  intro bs _ rest hbs hw _
  cases hw with
  | record hmembers =>
    cases hmembers with
    | @member _ _ _ _ _ _ cs _ hb hb' hw more =>
      have hcontent := hread hb' hw (more.ends rest)
      cases more with
      | @close b _ hb'' =>
        have hclose : closeAlternative (b ++ ('\x7d' :: rest)) = .ok rest := by
          unfold closeAlternative
          rw [skipBlanks_append hb'', skipBlanks_cons rfl]
          rfl
        have hname := memberAlternative_quoted h hb
        rw [List.append_assoc, List.singleton_append] at hcontent
        unfold tagged
        rw [skipBlanks_append hbs, List.cons_append, skipBlanks_cons rfl]
        simp only [if_true, List.nil_append, List.append_assoc, List.cons_append]
        rw [hname, ok_bind]
        dsimp only
        rw [colon_cons, ok_bind, hcontent, ok_bind]
        dsimp only
        rw [hclose]
        rfl

end Lockstep.Json
