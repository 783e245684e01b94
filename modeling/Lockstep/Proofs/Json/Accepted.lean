import Lockstep.Proofs.Computation
import Lockstep.Proofs.Json.Codecs

namespace Lockstep.Json

/-- The reader gives the value for some text. -/
def Given {α : Type} (read : Reader α) (a : α) : Prop := ∃ cs rest, read cs = .ok (a, rest)

variable {α β : Type} {floats : FloatRule} {read : Reader α} {a b : α}

theorem Given.of_map {f : α × List Char → β × List Char} {b : β} (h : Given (fun cs => (read cs).map f) b) :
    ∃ a rest, Given read a ∧ (f (a, rest)).1 = b := by
  obtain ⟨cs, rest, h⟩ := h
  obtain ⟨⟨a, rest'⟩, hread, hf⟩ := map_eq_ok_iff.mp h
  exact ⟨a, rest', ⟨cs, rest', hread⟩, congrArg Prod.fst hf⟩

theorem isFinite_of_float? {n : Number} {text : List Char} {x : Float} (h : n.float? floats text = some x) :
    x.isFinite = true := by
  unfold Number.float? at h
  split at h
  · rename_i hword
    cases h
    rw [Bool.and_eq_true, decide_eq_true_iff] at hword
    exact Numeral.isFinite_toFloat_of_lt _ hword.2
  · exact (Option.filter_eq_some_iff.mp h).2

theorem isFinite_of_numberWithFloat {negative : Bool} {cs rest : List Char} {n : Number} {x : Float}
    (h : numberWithFloat floats negative cs = .ok ((n, x), rest)) : x.isFinite = true := by
  obtain ⟨⟨n', rest'⟩, -, h⟩ := bind_eq_ok_iff.mp h
  dsimp only at h
  split at h
  · rename_i hfloat
    cases h
    exact isFinite_of_float? hfloat
  · cases h

theorem Given.numeric {a : Number × Float} (h : Given (numeric floats) a) : a.2.isFinite = true := by
  obtain ⟨cs, rest, h⟩ := h
  unfold Json.numeric at h
  split at h
  · exact isFinite_of_numberWithFloat h
  · split at h
    · exact isFinite_of_numberWithFloat h
    · cases h
  · cases h

theorem Given.float {x : Float} (h : Given (readFloat floats) x) : x.isFinite = true := by
  obtain ⟨a, -, ha, rfl⟩ := h.of_map
  exact ha.numeric

theorem Given.nat {limit n : ℕ} (h : Given (readNat floats limit) n) : n < limit := by
  obtain ⟨cs, rest, h⟩ := h
  obtain ⟨⟨number, rest'⟩, -, h⟩ := bind_eq_ok_iff.mp h
  dsimp only at h
  split at h
  · rename_i hlimit
    cases h
    rw [Bool.and_eq_true, decide_eq_true_iff] at hlimit
    exact hlimit.2
  · cases h

theorem given_of_elements {bound : List Char} {first : Bool} {cs rest : List Char} {as : List α}
    (h : elements read bound first cs = .ok (as, rest)) : ∀ a ∈ as, Given read a := by
  induction bound generalizing first cs as rest with
  | nil => cases h
  | cons _ bound ih =>
    obtain ⟨next, -, h⟩ := bind_eq_ok_iff.mp h
    cases next with
    | finished => 
      cases h
      exact fun _ ha => (List.not_mem_nil ha).elim
    | entry cs =>
      obtain ⟨⟨a, cs'⟩, hread, h⟩ := bind_eq_ok_iff.mp h
      obtain ⟨⟨others, cs''⟩, helements, h⟩ := bind_eq_ok_iff.mp h
      cases h
      intro b hb
      obtain rfl | hb := List.mem_cons.mp hb
      · exact ⟨cs, cs', hread⟩
      · exact ih helements b hb

theorem Given.list {as : List α} (h : Given (readList floats read) as) : ∀ a ∈ as, Given read a := by
  obtain ⟨cs, rest, h⟩ := h
  unfold readList at h
  split at h
  · exact given_of_elements h
  · cases h

theorem Given.pair (h : Given (readPair floats read) (a, b)) : Given read a ∧ Given read b := by
  obtain ⟨cs, rest, h⟩ := h
  unfold readPair at h
  split at h
  · obtain ⟨next, -, h⟩ := bind_eq_ok_iff.mp h
    cases next with
    | finished => cases h
    | entry cs =>
      obtain ⟨⟨a', cs'⟩, ha, h⟩ := bind_eq_ok_iff.mp h
      obtain ⟨next, -, h⟩ := bind_eq_ok_iff.mp h
      cases next with
      | finished => cases h
      | entry cs₁ =>
        obtain ⟨⟨b', cs''⟩, hb, h⟩ := bind_eq_ok_iff.mp h
        obtain ⟨next, -, h⟩ := bind_eq_ok_iff.mp h
        cases next with
        | finished =>
          cases h
          exact ⟨⟨cs, cs', ha⟩, cs₁, cs'', hb⟩
        | entry =>
          obtain ⟨_, -, h⟩ := bind_eq_ok_iff.mp h
          cases h
  · cases h

variable {ts : List Type}

/-- A member was read, or it stands for a missing one. -/
def Filled {α : Type} (read : Reader α) (absent : Option α) (a : α) : Prop := Given read a ∨ absent = some a

theorem Filled.required (h : Filled read none a) : Given read a :=
  h.resolve_right nofun

def Members.Checked : {ts : List Type} → Members ts → Row ts → Prop
  | _, .nil, _ => True
  | _, .cons _ absent read rest, (a, row) => Filled read absent a ∧ rest.Checked row

/-- Each member of the draft was read. -/
def Members.Drafted : {ts : List Type} → Members ts → Draft ts → Prop
  | _, .nil, _ => True
  | _, .cons _ _ read rest, (value, others) => (∀ a, value = some a → Given read a) ∧ rest.Drafted others

theorem Members.drafted_blank (m : Members ts) : m.Drafted m.blank := by
  induction m with
  | nil => exact trivial
  | cons _ _ _ _ ih => exact ⟨nofun, ih⟩

theorem Members.checked_of_inOrder (m : Members ts) {first : Bool} {cs rest : List Char} {row : Row ts}
    (h : m.inOrder first cs = .ok (row, rest)) : m.Checked row := by
  induction m generalizing first cs rest with
  | nil => exact trivial
  | cons name absent read m ih =>
    obtain ⟨next, -, h⟩ := bind_eq_ok_iff.mp h
    cases next with
    | finished => cases h
    | entry cs =>
      obtain ⟨⟨a, cs'⟩, hread, h⟩ := bind_eq_ok_iff.mp h
      obtain ⟨⟨row, cs''⟩, hrow, h⟩ := bind_eq_ok_iff.mp h
      cases h
      exact ⟨Or.inl ⟨cs, cs', hread⟩, ih hrow⟩

theorem Members.drafted_of_fill? (m : Members ts) {key : String} {d d' : Draft ts} {put : Reader (Draft ts)}
    {cs rest : List Char} (hd : m.Drafted d) (hput : m.fill? key d = some put) (h : put cs = .ok (d', rest)) :
    m.Drafted d' := by
  induction m generalizing cs rest with
  | nil => cases hput
  | cons name absent read m ih =>
    obtain ⟨value, others⟩ := d
    change (if key = name then _ else _) = _ at hput
    split at hput
    · cases value with
      | some => 
        cases hput
        cases h
      | none =>
        cases hput
        obtain ⟨cs', -, h⟩ := bind_eq_ok_iff.mp h
        obtain ⟨⟨a, cs''⟩, hread, h⟩ := bind_eq_ok_iff.mp h
        cases h
        refine ⟨fun b hb => ?_, hd.2⟩
        cases hb
        exact ⟨cs', _, hread⟩
    · obtain ⟨fill, hfill, rfl⟩ := Option.map_eq_some_iff.mp hput
      obtain ⟨⟨others', cs'⟩, hothers, h⟩ := bind_eq_ok_iff.mp h
      cases h
      exact ⟨hd.1, ih hd.2 hfill hothers⟩

theorem Members.drafted_of_byName (m : Members ts) {bound : List Char} {first : Bool} {d d' : Draft ts}
    {cs rest : List Char} (hd : m.Drafted d) (h : m.byName bound first d cs = .ok (d', rest)) : m.Drafted d' := by
  -- unknown members leave the draft as it is
  induction bound generalizing first d cs with
  | nil => cases h
  | cons _ bound ih =>
    obtain ⟨next, -, h⟩ := bind_eq_ok_iff.mp h
    cases next with
    | finished =>
      cases h
      exact hd
    | entry cs =>
      obtain ⟨⟨key, cs'⟩, -, h⟩ := bind_eq_ok_iff.mp h
      dsimp only at h
      split at h
      · rename_i put hput
        obtain ⟨⟨d₁, cs₁⟩, hfill, h⟩ := bind_eq_ok_iff.mp h
        exact ih (m.drafted_of_fill? hd hput hfill) h
      · obtain ⟨_, -, h⟩ := bind_eq_ok_iff.mp h
        obtain ⟨_, -, h⟩ := bind_eq_ok_iff.mp h
        exact ih hd h

theorem Members.checked_of_complete (m : Members ts) {d : Draft ts} {row : Row ts} (hd : m.Drafted d)
    (h : m.complete d = .ok row) : m.Checked row := by
  induction m with
  | nil => exact trivial
  | cons name absent read m ih =>
    obtain ⟨value, others⟩ := d
    rw [Members.complete] at h
    cases value with
    | some a =>
      obtain ⟨row, hrow, rfl⟩ := map_eq_ok_iff.mp h
      exact ⟨Or.inl (hd.1 a rfl), ih hd.2 hrow⟩
    | none =>
      cases absent with
      | none => cases h
      | some a =>
        obtain ⟨row, hrow, rfl⟩ := map_eq_ok_iff.mp h
        exact ⟨Or.inr rfl, ih hd.2 hrow⟩

theorem Given.record {m : Members ts} {row : Row ts} (h : Given (m.read floats) row) : m.Checked row := by
  obtain ⟨cs, rest, h⟩ := h
  unfold Members.read at h
  split at h
  · obtain ⟨⟨row, _⟩, hrow, h⟩ := bind_eq_ok_iff.mp h
    obtain ⟨_, -, h⟩ := bind_eq_ok_iff.mp h
    cases h
    exact m.checked_of_inOrder hrow
  · obtain ⟨⟨d, _⟩, hd, h⟩ := bind_eq_ok_iff.mp h
    obtain ⟨row, hrow, h⟩ := bind_eq_ok_iff.mp h
    cases h
    exact m.checked_of_complete (m.drafted_of_byName m.drafted_blank hd) hrow
  · cases h

theorem mem_of_memberAlternative {α : Type} {table : List (String × α)} {cs rest : List Char} {a : α}
    (h : memberAlternative table cs = .ok (a, rest)) : a ∈ table.map Prod.snd := by
  unfold memberAlternative at h
  split at h
  · cases h
  · obtain ⟨⟨name, cs'⟩, -, h⟩ := bind_eq_ok_iff.mp h
    dsimp only at h
    split at h
    · rename_i hlookup
      cases h
      obtain ⟨before, after, rfl, -⟩ := List.lookup_eq_some_iff.mp hlookup
      rw [List.map_append]
      exact List.mem_append_right _ List.mem_cons_self
    · cases h
  · cases h

theorem Given.tagged {table : List (String × Reader α)} (h : Given (tagged table) a) :
    ∃ content ∈ table.map Prod.snd, Given content a := by
  obtain ⟨cs, rest, h⟩ := h
  unfold Json.tagged at h
  split at h
  · cases h
  · obtain ⟨_, -, h⟩ := bind_eq_ok_iff.mp h
    cases h
  · obtain ⟨⟨content, cs₁⟩, hcontent, h⟩ := bind_eq_ok_iff.mp h
    obtain ⟨cs₂, -, h⟩ := bind_eq_ok_iff.mp h
    obtain ⟨⟨b, cs₃⟩, hread, h⟩ := bind_eq_ok_iff.mp h
    obtain ⟨_, -, h⟩ := bind_eq_ok_iff.mp h
    cases h
    exact ⟨content, mem_of_memberAlternative hcontent, cs₂, cs₃, hread⟩
  · cases h

end Lockstep.Json

namespace Lockstep

open Json

variable {floats : FloatRule}

theorem Point.fits_of_given {p : Point} (h : Given (Point.read floats) p) : p.Fits := by
  obtain ⟨⟨x, y⟩, -, hpair, rfl⟩ := h.of_map
  exact ⟨hpair.pair.1.float, hpair.pair.2.float⟩

theorem TickCommand.fits_of_given {t : TickCommand} (h : Given (TickCommand.read floats) t) : t.Fits := by
  obtain ⟨row, -, hrow, rfl⟩ := h.of_map
  obtain ⟨hmilliseconds, -⟩ := hrow.record
  exact hmilliseconds.required.float

theorem Robot.fits_of_given {r : Robot} (h : Given (Robot.read floats) r) : r.Fits := by
  obtain ⟨row, -, hrow, rfl⟩ := h.of_map
  obtain ⟨hid, -, hposition, hvelocity, horientation, -⟩ := hrow.record
  exact ⟨hid.required.nat, Point.fits_of_given hposition.required, Point.fits_of_given hvelocity.required,
    horientation.required.float⟩

theorem Ball.fits_of_given {b : Ball} (h : Given (Ball.read floats) b) : b.Fits := by
  obtain ⟨row, -, hrow, rfl⟩ := h.of_map
  obtain ⟨hposition, hvelocity, -⟩ := hrow.record
  exact ⟨Point.fits_of_given hposition.required, Point.fits_of_given hvelocity.required⟩

theorem Snapshot.fits_of_given {w : Snapshot} (h : Given (Snapshot.read floats) w) : w.Fits := by
  obtain ⟨row, -, hrow, rfl⟩ := h.of_map
  obtain ⟨htick, htimestamp, hrobots, hball, -⟩ := hrow.record
  exact ⟨htick.required.nat, htimestamp.required.float,
    fun r hr => Robot.fits_of_given (hrobots.required.list r hr), Ball.fits_of_given hball.required⟩

theorem Region.fits_of_given {r : Region} (h : Given (Region.read floats) r) : r.Fits := by
  obtain ⟨content, hmem, hcontent⟩ := h.tagged
  obtain rfl | hmem := List.mem_cons.mp hmem
  · obtain ⟨row, -, hrow, rfl⟩ := hcontent.of_map
    obtain ⟨hmin, hmax, -⟩ := hrow.record
    exact ⟨Point.fits_of_given hmin.required, Point.fits_of_given hmax.required⟩
  · obtain rfl := List.mem_singleton.mp hmem
    obtain ⟨row, -, hrow, rfl⟩ := hcontent.of_map
    obtain ⟨hcenter, hradius, -⟩ := hrow.record
    exact ⟨Point.fits_of_given hcenter.required, hradius.required.float⟩

theorem SequenceReport.fits_of_given {r : SequenceReport} (h : Given (SequenceReport.read floats) r) : r.Fits := by
  obtain ⟨row, -, hrow, rfl⟩ := h.of_map
  obtain ⟨-, -, -, hcompleted, htotal, -⟩ := hrow.record
  exact ⟨hcompleted.required.nat, htotal.required.nat⟩

theorem Report.fits_of_given {r : Report} (h : Given (Report.read floats) r) : r.Fits := by
  obtain ⟨row, -, hrow, rfl⟩ := h.of_map
  obtain ⟨htick, hsequences, -⟩ := hrow.record
  exact ⟨htick.required.nat, fun s hs => SequenceReport.fits_of_given (hsequences.required.list s hs)⟩

theorem Failure.fits_of_given {f : Failure} (h : Given (Failure.read floats) f) : f.Fits := by
  obtain ⟨row, -, hrow, rfl⟩ := h.of_map
  obtain ⟨-, htick, hsequences, -⟩ := hrow.record
  exact ⟨htick.required.nat, fun s hs => SequenceReport.fits_of_given (hsequences.required.list s hs)⟩

theorem Frame.fits_of_given {f : Frame} (h : Given (Frame.read floats) f) : f.Fits := by
  obtain ⟨row, -, hrow, rfl⟩ := h.of_map
  obtain ⟨helapsed, hworld, heventually, halways, -⟩ := hrow.record
  exact ⟨helapsed.required.float, Snapshot.fits_of_given hworld.required,
    Report.fits_of_given heventually.required, Report.fits_of_given halways.required⟩

theorem RunExport.fits_of_given {e : RunExport} (h : Given (RunExport.read floats) e) : e.Fits := by
  obtain ⟨row, -, hrow, rfl⟩ := h.of_map
  obtain ⟨-, -, hseed, htimeout, htickDuration, hframes, -, -, htotalTicks, -⟩ := hrow.record
  exact ⟨hseed.required.nat, htimeout.required.float, htickDuration.required.float,
    fun f hf => Frame.fits_of_given (hframes.required.list f (Array.mem_toList_iff.mpr hf)),
    htotalTicks.required.nat⟩

end Lockstep
