import Lockstep.Json.Codec
import Lockstep.Proofs.Json.Readers

/-!
Records that are read back. While a record is read, the members that have come are in a draft, and the others are to
come or left out (`Awaits`). Each member that comes keeps that so, and in the end the draft gives the row.
-/

namespace Lockstep.Json

/-- The members to come, in this order, make the row of the draft. -/
inductive Awaits : {ts : List Type} → Members ts → Draft ts → List (String × Json) → Row ts → Prop
  | nil : Awaits .nil () [] ()
  | done {α : Type} {ts : List Type} {name : String} {absent : Option α} {read : Reader α} {m : Members ts}
      {d : Draft ts} {ms : List (String × Json)} {row : Row ts} {a : α} (hname : name ∉ ms.map Prod.fst)
      (others : Awaits m d ms row) : Awaits (.cons name absent read m) (some a, d) ms (a, row)
  | next {α : Type} {ts : List Type} {name : String} {absent : Option α} {read : Reader α} {m : Members ts}
      {d : Draft ts} {ms : List (String × Json)} {row : Row ts} {j : Json} {a : α} (hread : Reads read j a)
      (hname : name ∉ ms.map Prod.fst) (others : Awaits m d ms row) :
      Awaits (.cons name absent read m) (none, d) ((name, j) :: ms) (a, row)
  | left {α : Type} {ts : List Type} {name : String} {read : Reader α} {m : Members ts}
      {d : Draft ts} {ms : List (String × Json)} {row : Row ts} {a : α} (hname : name ∉ ms.map Prod.fst)
      (others : Awaits m d ms row) : Awaits (.cons name (some a) read m) (none, d) ms (a, row)

/-- A member of another name is left to the rest of the members. -/
theorem Members.fill?_of_ne {α : Type} {ts : List Type} {name key : String} (hne : key ≠ name)
    (absent : Option α) (read : Reader α) {m : Members ts} {d : Draft ts} {put : Reader (Draft ts)}
    (h : m.fill? key d = some put) (value : Option α) :
    (cons name absent read m).fill? key (value, d) =
      some fun cs => (put cs).bind fun (others, cs) => .ok ((value, others), cs) := by
  refine (if_neg hne).trans ?_
  rw [h]
  rfl

namespace Awaits

variable {ts : List Type} {m : Members ts} {d : Draft ts} {ms : List (String × Json)} {row : Row ts}

/-- The next member has a place in the draft. -/
theorem fill {name : String} {j : Json} (h : Awaits m d ((name, j) :: ms) row) :
    ∃ put d', m.fill? name d = some put ∧ Awaits m d' ms row ∧
      ∀ {b cs rest : List Char}, Blanks b → Writes j cs → Ends rest →
        put (':' :: (b ++ (cs ++ rest))) = .ok (d', rest) := by
  -- a member that is not the first of the draft has another name than the first, so the first is left alone
  generalize hms : (name, j) :: ms = all at h
  induction h with
  | nil => cases hms
  | @done α _ name' absent read _ _ _ _ a hname _ ih =>
    obtain ⟨put, d', hfill, hawaits, hput⟩ := ih hms
    subst hms
    rw [List.map_cons, List.mem_cons, not_or] at hname
    refine ⟨_, (some a, d'), Members.fill?_of_ne (Ne.symm hname.1) absent read hfill _,
      .done hname.2 hawaits, ?_⟩
    intro b cs rest hb hw hrest
    dsimp only
    rw [hput hb hw hrest]
    rfl
  | @next α _ name' absent read m d ms' row j' a hread hname others ih =>
    cases hms
    refine ⟨_, (some a, d), if_pos rfl, .done hname others, ?_⟩
    intro b cs rest hb hw hrest
    dsimp only
    rw [colon_cons, ok_bind, hread hb hw hrest]
    rfl
  | @left α _ name' read _ _ _ _ a hname _ ih =>
    obtain ⟨put, d', hfill, hawaits, hput⟩ := ih hms
    subst hms
    rw [List.map_cons, List.mem_cons, not_or] at hname
    refine ⟨_, (none, d'), Members.fill?_of_ne (Ne.symm hname.1) (some a) read hfill _,
      .left hname.2 hawaits, ?_⟩
    intro b cs rest hb hw hrest
    dsimp only
    rw [hput hb hw hrest]
    rfl

theorem complete (h : Awaits m d [] row) : m.complete d = .ok row := by
  generalize hms : [] = all at h
  induction h with
  | nil => rfl
  | done _ _ ih =>
    rw [Members.complete, ih hms]
    rfl
  | next => cases hms
  | left _ _ ih =>
    rw [Members.complete, ih hms]
    rfl

end Awaits

theorem nextMember_close (first : Bool) {b : List Char} (hb : Blanks b) (rest : List Char) :
    nextMember first (b ++ ['\x7d'] ++ rest) = .ok (.finished rest) := by
  unfold nextMember
  rw [List.append_assoc, skipBlanks_append hb]
  rfl

theorem nextMember_quoted (first : Bool) {b : List Char} (hb : Blanks b) (name : String)
    (rest : List Char) :
    nextMember first ((if first then [] else [',']) ++ (b ++ (quoted name ++ rest))) =
      .ok (.entry (name.toList.flatMap escape ++ '"' :: rest)) := by
  have hskip : skipBlanks (b ++ (quoted name ++ rest)) =
      '"' :: (name.toList.flatMap escape ++ '"' :: rest) := by
    rw [skipBlanks_append hb, quoted_append, skipBlanks_cons rfl]
  cases first with
  | true =>
    show nextMember true (b ++ _) = _
    unfold nextMember
    rw [hskip]
    rfl
  | false =>
    show nextMember false (',' :: (b ++ _)) = _
    unfold nextMember
    rw [skipBlanks_cons rfl]
    simp [hskip]

theorem WritesMembers.length_lt {first : Bool} {ms : List (String × Json)} {cs : List Char}
    (h : WritesMembers first ms cs) : ms.length < cs.length := by
  induction ms generalizing first cs with
  | nil =>
    cases h with
    | close => rw [List.length_append]; exact Nat.lt_add_left _ Nat.zero_lt_one
  | cons member ms ih =>
    cases h with
    | member _ _ _ more =>
      have := ih more
      simp only [List.length_append, List.length_cons]
      omega

variable {ts : List Type} {m : Members ts} {ms : List (String × Json)} {row : Row ts}

theorem byName_of_writes {d : Draft ts} (h : Awaits m d ms row) {first : Bool} {cs bound : List Char}
    (hw : WritesMembers first ms cs) (hbound : ms.length < bound.length) (rest : List Char) :
    ∃ d', m.byName bound first d (cs ++ rest) = .ok (d', rest) ∧ Awaits m d' [] row := by
  induction ms generalizing d first cs bound with
  | nil =>
    cases bound with
    | nil => cases hbound
    | cons _ bound =>
      cases hw with
      | close _ hb =>
        refine ⟨d, ?_, h⟩
        rw [Members.byName, nextMember_close first hb]
        rfl
  | cons _ ms ih =>
    cases bound with
    | nil => cases hbound
    | cons _ bound =>
      cases hw with
      | @member _ name j _ b b' cs tail hb hb' hj more =>
        obtain ⟨put, d₁, hfill, hawaits, hput⟩ := h.fill
        obtain ⟨d', hrest, hend⟩ := ih hawaits more (Nat.lt_of_succ_lt_succ hbound)
        have hvalue := hput hb' hj (more.ends rest)
        have hnext := nextMember_quoted first hb name (':' :: (b' ++ (cs ++ (tail ++ rest))))
        refine ⟨d', ?_, hend⟩
        simp only [List.append_assoc, List.cons_append]
        rw [Members.byName, hnext, ok_bind]
        dsimp only
        rw [textTail_escapes, ok_bind]
        dsimp only
        rw [hfill]
        dsimp only
        rw [hvalue, ok_bind]
        exact hrest

theorem reads_record (floats : FloatRule) (h : Awaits m m.blank ms row) :
    Reads (m.read floats) (.record ms) row := by
  intro bs _ rest hbs hw _
  cases hw with
  | @record _ cs hmembers =>
    have hbound : ms.length < (cs ++ rest).length := by
      have := hmembers.length_lt
      rw [List.length_append]
      omega
    obtain ⟨d, hname, hend⟩ := byName_of_writes h hmembers hbound rest
    unfold Members.read
    rw [skipBlanks_append hbs, List.cons_append, skipBlanks_cons rfl]
    simp [hname, hend.complete]

/-- A member that may be left out is found or replaced. -/
theorem Awaits.maybe {α : Type} (name : String) (value : Option α) {read : Reader α} {d : Draft ts}
    {json : α → Json} (hread : ∀ a, value = some a → Reads (optional read) (json a) (some a))
    (hname : name ∉ ms.map Prod.fst) (h : Awaits m d ms row) :
    Awaits (.maybe name read m) (none, d) (unlessNone name (value.map json) ++ ms) (value, row) := by
  cases value with
  | none => exact .left hname h
  | some a => exact .next (hread a rfl) hname h

end Lockstep.Json
