import Lockstep.Proofs.Json.Accepted

namespace Lockstep

open Json

namespace Json

/-- Values that fit are read back, and all values that are read fit. -/
structure RoundTrips {α : Type} (json : α → Json) (read : Reader α) (Fits : α → Prop) : Prop where
  compact : ∀ a, Fits a → decode read (json a).compact = .ok a
  pretty : ∀ a, Fits a → decode read (json a).pretty = .ok a
  again : ∀ s a, decode read s = .ok a → Fits a ∧
    (∃ b, decode read (json a).compact = .ok b ∧ (json b).compact = (json a).compact) ∧
    ∃ b, decode read (json a).pretty = .ok b ∧ (json b).pretty = (json a).pretty

theorem decode_of_reads {α : Type} {read : Reader α} {j : Json} {a : α} {cs : List Char} (h : Reads read j a)
    (hw : Writes j cs) : decode read (String.ofList cs) = .ok a := by
  have hread := h .nil hw .nil
  rw [List.append_nil, List.nil_append] at hread
  rw [decode, String.toList_ofList, hread]
  rfl

theorem given_of_decode {α : Type} {read : Reader α} {s : String} {a : α} (h : decode read s = .ok a) :
    Given read a := by
  obtain ⟨⟨b, rest⟩, hread, h⟩ := bind_eq_ok_iff.mp h
  dsimp only at h
  split at h
  · cases h
    exact ⟨_, rest, hread⟩
  · cases h

theorem RoundTrips.of_reads {α : Type} {json : α → Json} {read : Reader α} {Fits : α → Prop}
    (hreads : ∀ a, Fits a → Reads read (json a) a) (hfits : ∀ a, Given read a → Fits a) :
    RoundTrips json read Fits := by
  have hcompact (a : α) (ha : Fits a) : decode read (json a).compact = .ok a :=
    decode_of_reads (hreads a ha) (writes_compact (json a))
  have hpretty (a : α) (ha : Fits a) : decode read (json a).pretty = .ok a :=
    decode_of_reads (hreads a ha) (writes_pretty 0 (json a))
  refine ⟨hcompact, hpretty, ?_⟩
  intro s a hs
  have ha := hfits a (given_of_decode hs)
  exact ⟨ha, ⟨a, hcompact a ha, rfl⟩, a, hpretty a ha, rfl⟩

end Json

/-- **Round trip.** Numbers are turned into floats by any rule that gives a finite float back from its printed text.
Then the JSON of every type is read back, for all values with finite floats and whole numbers within their words,
whatever their texts and optional members are. Readers accept other texts, too, and what they make of them is read
back in turn. -/
theorem serialised_round_trip {floats : FloatRule} (hfloats : floats.ReadsBack) :
    RoundTrips TickCommand.json (TickCommand.read floats) TickCommand.Fits ∧
      RoundTrips Team.json (Team.read floats) (fun _ => True) ∧
      RoundTrips Robot.json (Robot.read floats) Robot.Fits ∧
      RoundTrips Ball.json (Ball.read floats) Ball.Fits ∧
      RoundTrips Snapshot.json (Snapshot.read floats) Snapshot.Fits ∧
      RoundTrips Region.json (Region.read floats) Region.Fits ∧
      RoundTrips Status.json (Status.read floats) (fun _ => True) ∧
      RoundTrips Rule.json (Rule.read floats) (fun _ => True) ∧
      RoundTrips SequenceReport.json (SequenceReport.read floats) SequenceReport.Fits ∧
      RoundTrips Report.json (Report.read floats) Report.Fits ∧
      RoundTrips Failure.json (Failure.read floats) Failure.Fits ∧
      RoundTrips Frame.json (Frame.read floats) Frame.Fits ∧
      RoundTrips OutcomeKind.json (OutcomeKind.read floats) (fun _ => True) ∧
      RoundTrips RunExport.json (RunExport.read floats) RunExport.Fits := by
  refine ⟨?_, ?_, ?_, ?_, ?_, ?_, ?_, ?_, ?_, ?_, ?_, ?_, ?_, ?_⟩
  · exact .of_reads (fun _ => TickCommand.reads hfloats) fun _ => TickCommand.fits_of_given
  · exact .of_reads (fun t _ => t.reads) fun _ _ => trivial
  · exact .of_reads (fun _ => Robot.reads hfloats) fun _ => Robot.fits_of_given
  · exact .of_reads (fun _ => Ball.reads hfloats) fun _ => Ball.fits_of_given
  · exact .of_reads (fun _ => Snapshot.reads hfloats) fun _ => Snapshot.fits_of_given
  · exact .of_reads (fun _ => Region.reads hfloats) fun _ => Region.fits_of_given
  · exact .of_reads (fun s _ => s.reads) fun _ _ => trivial
  · exact .of_reads (fun r _ => r.reads) fun _ _ => trivial
  · exact .of_reads (fun _ => SequenceReport.reads) fun _ => SequenceReport.fits_of_given
  · exact .of_reads (fun _ => Report.reads) fun _ => Report.fits_of_given
  · exact .of_reads (fun _ => Failure.reads) fun _ => Failure.fits_of_given
  · exact .of_reads (fun _ => Frame.reads hfloats) fun _ => Frame.fits_of_given
  · exact .of_reads (fun k _ => k.reads) fun _ _ => trivial
  · exact .of_reads (fun _ => RunExport.reads hfloats) fun _ => RunExport.fits_of_given

/-- A recording with characters that have to be escaped, the greatest numbers, and floats that are the least one
or have few digits. -/
def edgeExport : RunExport :=
  let robot : Robot :=
    ⟨UInt32.size - 1, .yellow, ⟨-0.0, Float.ofBits 1⟩, ⟨0.1, -9.5⟩, Float.ofBits 0x7e37e43c8800759c⟩
  let report : Report := ⟨3, [⟨"\"quoted\"", .failed, none, 0, wordLimit - 1, some "\\ \n \x01 é"⟩]⟩
  { runId := ⟨255⟩, scenario := "", seed := wordLimit - 1, timeout := 30.0, tickDuration := 1e-7
    frames := #[⟨0.3, ⟨3, 0.3, [robot], ⟨⟨0.0, 0.0⟩, ⟨0.0, 0.0⟩⟩⟩, report, ⟨3, []⟩⟩]
    failureReason := some "lost", totalTicks := 3 }

/-- It fits, so it is read back from both of its texts. -/
theorem serialised_round_trip_edges :
    FloatRule.nearest.ReadsBack ∧ edgeExport.Fits ∧
      decode (RunExport.read .nearest) edgeExport.json.compact = .ok edgeExport ∧
      decode (RunExport.read .nearest) edgeExport.json.pretty = .ok edgeExport := by
  have hfits : edgeExport.Fits := by
    refine ⟨by decide, rfl, rfl, fun f hf => ?_, by decide⟩
    obtain rfl := List.mem_singleton.mp (Array.mem_toList_iff.mpr hf)
    refine ⟨rfl, ⟨by decide, rfl, fun r hr => ?_, ⟨rfl, rfl⟩, ⟨rfl, rfl⟩⟩,
      ⟨by decide, fun s hs => ?_⟩, by decide, fun s hs => ?_⟩
    · obtain rfl := List.mem_singleton.mp hr
      exact ⟨by decide, ⟨rfl, rfl⟩, ⟨rfl, rfl⟩, rfl⟩
    · obtain rfl := List.mem_singleton.mp hs
      exact ⟨by decide, by decide⟩
    · exact (List.not_mem_nil hs).elim
  obtain ⟨-, -, -, -, -, -, -, -, -, -, -, -, -, hexport⟩ := serialised_round_trip FloatRule.readsBack_nearest
  exact ⟨FloatRule.readsBack_nearest, hfits, hexport.compact _ hfits, hexport.pretty _ hfits⟩

/-- A text that is not written like this: blanks and numbers are free, and a record may be a list. -/
example : decode (Region.read .nearest) " \x7b\"Circle\": [[0.50, -2E0], 1]\x7d" =
    .ok (.circle ⟨0.5, -2.0⟩ 1.0) := by rfl

end Lockstep
