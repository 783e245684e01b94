import Lockstep.Display.Bridge
import Mathlib.Data.Nat.Notation

/-!
The two threads of a run beside a display, each working at its own pace. The caller shows the display and then
waits for the other thread, which makes the call, sleeps and closes the signal. Time passes as it likes, and
others may use the signal too: raise its flag, leave a token or take one.

Whatever the order of all that, the caller comes to the outcome of the call, as it would without a display
(`Bridge.outcome_of_schedule`).
-/

namespace Lockstep

namespace CloseSignal

/-- The first half of a close, which everybody sees. -/
def raise (s : CloseSignal) : CloseSignal := { s with closed := true }

/-- The second half, which is left to the first one to close. There is room for one token. -/
def post (s : CloseSignal) : CloseSignal := { s with token := true }

def take (s : CloseSignal) : CloseSignal := { s with token := false }

theorem close_eq (s : CloseSignal) : s.close = if s.closed then s.raise else s.raise.post := by
  obtain ⟨closed, token⟩ := s
  cases closed <;> rfl

theorem closed_close (s : CloseSignal) : s.close.closed = true := by
  rw [close_eq]
  cases hclosed : s.closed <;> rfl

end CloseSignal

theorem Display.closed_close (display : Display) : display.close.signal.closed = true := by
  cases display with
  | waiting signal | failing _ signal => exact signal.closed_close

namespace Bridge

/-- A call beside a display. While its signal is open, the display may leave at the given moments with the given
results. It asks its signal again and again, and waits for a token in between, but not for longer than
`poll`. -/
structure Viewing where
  call : Except Panic Outcome
  delays : CloseDelays
  leaves : ℕ → Except LinkError Unit → Prop
  poll : ℕ

/-- Where the background thread is, with the outcome and the moments at which the call ended and the signal was
closed. -/
inductive WorkerPhase where
  | calling
  | sleeping (o : Outcome) (ended : ℕ)
  | posting (o : Outcome) (ended closed : ℕ)
  | finished (o : Outcome) (ended closed : ℕ)

namespace WorkerPhase

def ended? : WorkerPhase → Option ℕ
  | calling => none
  | sleeping _ ended | posting _ ended _ | finished _ ended _ => some ended

def closed? : WorkerPhase → Option ℕ
  | calling | sleeping .. => none
  | posting _ _ closed | finished _ _ closed => some closed

/-- The steps that the background thread has left. -/
def rank : WorkerPhase → ℕ
  | calling => 3
  | sleeping .. => 2
  | posting .. => 1
  | finished .. => 0

end WorkerPhase

/-- Where the caller is: in one of three places while the display is shown, then behind it. -/
inductive CallerPhase where
  | looking
  | waiting (deadline : ℕ)
  | lookingAgain
  | joining (shown : Except LinkError Unit)
  | returned (o : Outcome)

namespace CallerPhase

inductive Showing : CallerPhase → Prop
  | looking : Showing looking
  | waiting (deadline : ℕ) : Showing (waiting deadline)
  | lookingAgain : Showing lookingAgain

/-- The steps that the caller has left on a closed signal, at most. On an open one it may go round. -/
def rank (closed : Bool) : CallerPhase → ℕ
  | looking | lookingAgain => if closed then 2 else 3
  | waiting _ => 3
  | joining _ => 1
  | returned _ => 0

theorem rank_true_le (p : CallerPhase) (closed : Bool) : p.rank true ≤ p.rank closed := by
  cases p <;> cases closed <;> simp only [rank] <;> decide

theorem Showing.lt_rank {p : CallerPhase} (h : p.Showing) (closed : Bool) :
    1 + closed.toNat ≤ p.rank closed := by
  cases h <;> cases closed <;> simp only [rank] <;> decide

end CallerPhase

structure Threads where
  signal : CloseSignal
  worker : WorkerPhase := .calling
  caller : CallerPhase := .looking
  now : ℕ := 0

/-- Who takes a step. For the caller it matters whether the signal is closed. -/
inductive Mover where
  | worker
  | caller (closed : Bool)
  | time
  | others
deriving DecidableEq

/-- Whether the step is one that the end needs. -/
def Mover.isOnward : Mover → Bool
  | worker => true
  | caller closed => closed
  | time | others => false

/-- What can happen next. -/
inductive Next (v : Viewing) : Threads → Mover → Threads → Prop
  | endCall (signal caller now) :
      Next v ⟨signal, .calling, caller, now⟩ .worker
        ⟨signal, .sleeping (outcome v.call) now, caller, now⟩
  | closeFirst {o ended signal now} (caller) (waited : ended + (delay v.delays o).nanos ≤ now)
      (opened : signal.closed = false) :
      Next v ⟨signal, .sleeping o ended, caller, now⟩ .worker
        ⟨signal.raise, .posting o ended now, caller, now⟩
  | closeAgain {o ended signal now} (caller) (waited : ended + (delay v.delays o).nanos ≤ now)
      (closed : signal.closed = true) :
      Next v ⟨signal, .sleeping o ended, caller, now⟩ .worker
        ⟨signal.raise, .finished o ended now, caller, now⟩
  | post (o ended closed signal caller now) :
      Next v ⟨signal, .posting o ended closed, caller, now⟩ .worker
        ⟨signal.post, .finished o ended closed, caller, now⟩
  | wait {signal} (worker now) (opened : signal.closed = false) :
      Next v ⟨signal, worker, .looking, now⟩ (.caller signal.closed)
        ⟨signal, worker, .waiting (now + v.poll), now⟩
  | wake {signal} (worker deadline now) (token : signal.token = true) :
      Next v ⟨signal, worker, .waiting deadline, now⟩ (.caller signal.closed)
        ⟨signal.take, worker, .lookingAgain, now⟩
  | expire {deadline now} (signal worker) (late : deadline ≤ now) :
      Next v ⟨signal, worker, .waiting deadline, now⟩ (.caller signal.closed)
        ⟨signal, worker, .lookingAgain, now⟩
  | goRound {signal} (worker now) (opened : signal.closed = false) :
      Next v ⟨signal, worker, .lookingAgain, now⟩ (.caller signal.closed)
        ⟨signal, worker, .looking, now⟩
  | hide {signal caller} (worker now) (looks : caller = .looking ∨ caller = .lookingAgain)
      (closed : signal.closed = true) :
      Next v ⟨signal, worker, caller, now⟩ (.caller signal.closed)
        ⟨signal, worker, .joining (.ok ()), now⟩
  | leave {caller shown now} (signal worker) (showing : caller.Showing) (leaves : v.leaves now shown) :
      Next v ⟨signal, worker, caller, now⟩ (.caller signal.closed)
        ⟨signal, worker, .joining shown, now⟩
  | join (o ended closed signal shown now) :
      Next v ⟨signal, .finished o ended closed, .joining shown, now⟩ (.caller signal.closed)
        ⟨signal, .finished o ended closed, .returned (outcome (.ok o)), now⟩
  | pass (time signal worker caller now) :
      Next v ⟨signal, worker, caller, now⟩ .time ⟨signal, worker, caller, now + time⟩
  | raise (signal worker caller now) :
      Next v ⟨signal, worker, caller, now⟩ .others ⟨signal.raise, worker, caller, now⟩
  | postToo (signal worker caller now) :
      Next v ⟨signal, worker, caller, now⟩ .others ⟨signal.post, worker, caller, now⟩
  | take (signal worker caller now) :
      Next v ⟨signal, worker, caller, now⟩ .others ⟨signal.take, worker, caller, now⟩

/-- A schedule and what it leads to. -/
inductive Runs (v : Viewing) : Threads → List Mover → Threads → Prop
  | nil (s : Threads) : Runs v s [] s
  | cons {s t u : Threads} {a : Mover} {as : List Mover} (first : Next v s a t) (rest : Runs v t as u) :
      Runs v s (a :: as) u

/-- What the background thread has done so far. -/
inductive WorkerPhase.Sound (v : Viewing) (signal : CloseSignal) (now : ℕ) : WorkerPhase → Prop
  | calling : Sound v signal now calling
  | sleeping {ended : ℕ} (past : ended ≤ now) : Sound v signal now (sleeping (outcome v.call) ended)
  | posting {ended closed : ℕ} (waited : ended + (delay v.delays (outcome v.call)).nanos ≤ closed)
      (past : closed ≤ now) (isClosed : signal.closed = true) :
      Sound v signal now (posting (outcome v.call) ended closed)
  | finished {ended closed : ℕ} (waited : ended + (delay v.delays (outcome v.call)).nanos ≤ closed)
      (past : closed ≤ now) (isClosed : signal.closed = true) :
      Sound v signal now (finished (outcome v.call) ended closed)

/-- What holds of the two threads at any time. -/
structure Threads.Sound (v : Viewing) (s : Threads) : Prop where
  worker : s.worker.Sound v s.signal s.now
  returned : ∀ o, s.caller = .returned o → ∃ ended closed, s.worker = .finished o ended closed

def Threads.rank (s : Threads) : ℕ := s.worker.rank + s.caller.rank s.signal.closed

variable {v : Viewing} {s t : Threads} {a : Mover} {as : List Mover}

/-- Time does not undo anything, and nobody opens a signal again. -/
theorem WorkerPhase.Sound.mono {signal signal' : CloseSignal} {now now' : ℕ} {p : WorkerPhase}
    (h : p.Sound v signal now) (hsignal : signal.closed = true → signal'.closed = true)
    (hnow : now ≤ now') : p.Sound v signal' now' := by
  cases h with
  | calling => exact .calling
  | sleeping past => exact .sleeping (Nat.le_trans past hnow)
  | posting waited past isClosed => exact .posting waited (Nat.le_trans past hnow) (hsignal isClosed)
  | finished waited past isClosed => exact .finished waited (Nat.le_trans past hnow) (hsignal isClosed)

namespace Next

theorem worker_sound (h : Next v s a t) (hs : s.worker.Sound v s.signal s.now) :
    t.worker.Sound v t.signal t.now := by
  cases h with
  | endCall => exact .sleeping (Nat.le_refl _)
  | closeFirst _ waited =>
    cases hs
    exact .posting waited (Nat.le_refl _) rfl
  | closeAgain _ waited =>
    cases hs
    exact .finished waited (Nat.le_refl _) rfl
  | post =>
    cases hs with
    | posting waited past isClosed => exact .finished waited past isClosed
  | pass => exact hs.mono id (Nat.le_add_right _ _)
  | raise => exact hs.mono (fun _ => rfl) (Nat.le_refl _)
  | _ => exact hs.mono id (Nat.le_refl _)

theorem returned (h : Next v s a t)
    (hs : ∀ o, s.caller = .returned o → ∃ ended closed, s.worker = .finished o ended closed) :
    ∀ o, t.caller = .returned o → ∃ ended closed, t.worker = .finished o ended closed := by
  intro o ho
  cases h with
  | endCall | closeFirst | closeAgain | post =>
    -- the caller has not returned before
    obtain ⟨_, _, hfinished⟩ := hs o ho
    cases hfinished
  | wait | wake | expire | goRound | hide | leave => cases ho
  | join =>
    cases ho
    exact ⟨_, _, rfl⟩
  | pass | raise | postToo | take => exact hs o ho

theorem sound (h : Next v s a t) (hs : s.Sound v) : t.Sound v :=
  ⟨h.worker_sound hs.worker, h.returned hs.returned⟩

/-- A signal is closed by somebody. -/
theorem closed_or (h : Next v s a t) (hothers : a ≠ .others)
    (hs : s.signal.closed = true → s.worker.closed?.isSome = true) (ht : t.signal.closed = true) :
    t.worker.closed?.isSome = true := by
  cases h with
  | endCall => cases hs ht
  | closeFirst | closeAgain | post => rfl
  | raise => exact absurd rfl hothers
  | _ => exact hs ht

/-- An onward step takes one off the rank, and no other adds to it. -/
theorem rank_le (h : Next v s a t) : t.rank + a.isOnward.toNat ≤ s.rank := by
  unfold Threads.rank
  -- to close the signal never adds to the steps of the caller, who then has nothing to wait for
  cases h with
  | @closeFirst _ _ signal _ caller =>
    have hcaller : caller.rank true ≤ caller.rank signal.closed := caller.rank_true_le _
    show 1 + caller.rank true + 1 ≤ 2 + caller.rank signal.closed
    omega
  | @closeAgain _ _ signal _ caller =>
    have hcaller : caller.rank true ≤ caller.rank signal.closed := caller.rank_true_le _
    show 0 + caller.rank true + 1 ≤ 2 + caller.rank signal.closed
    omega
  | raise _ worker caller => exact Nat.add_le_add_left (caller.rank_true_le _) worker.rank
  | endCall | post =>
    simp only [WorkerPhase.rank, Mover.isOnward, CloseSignal.post, Bool.toNat_true]
    omega
  | pass | postToo | take => exact Nat.le_refl _
  | wait _ _ opened | goRound _ _ opened =>
    simp only [opened, CallerPhase.rank, Mover.isOnward, Bool.toNat_false, Nat.add_zero,
      Bool.false_eq_true, ↓reduceIte, Nat.le_refl]
  | hide _ _ looks closed =>
    obtain rfl | rfl := looks
    · simp only [closed, CallerPhase.rank, Mover.isOnward, Bool.toNat_true, ↓reduceIte, Nat.le_refl]
    · simp only [closed, CallerPhase.rank, Mover.isOnward, Bool.toNat_true, ↓reduceIte, Nat.le_refl]
  | @wake signal worker | expire signal worker =>
    -- the caller looks once more: at a closed signal it is one step nearer to its end
    have hcaller : CallerPhase.lookingAgain.rank signal.closed + signal.closed.toNat = 3 := by
      cases signal.closed <;> rfl
    show worker.rank + CallerPhase.lookingAgain.rank signal.closed + signal.closed.toNat ≤ worker.rank + 3
    omega
  | @leave caller _ _ signal worker showing =>
    have hcaller := showing.lt_rank signal.closed
    show worker.rank + 1 + signal.closed.toNat ≤ worker.rank + caller.rank signal.closed
    omega
  | join _ _ _ signal =>
    have hle : signal.closed.toNat ≤ 1 := Bool.toNat_le _
    show 0 + 0 + signal.closed.toNat ≤ 0 + 1
    omega

end Next

theorem Runs.append {u : Threads} {bs : List Mover} (h : Runs v s as t) (more : Runs v t bs u) :
    Runs v s (as ++ bs) u := by
  induction h with
  | nil => exact more
  | cons first _ ih => exact .cons first (ih more)

theorem Runs.sound (h : Runs v s as t) (hs : s.Sound v) : t.Sound v := by
  induction h with
  | nil => exact hs
  | cons first _ ih => exact ih (first.sound hs)

theorem Runs.rank_le (h : Runs v s as t) : t.rank + as.countP Mover.isOnward ≤ s.rank := by
  induction h with
  | nil => exact Nat.le_refl _
  | @cons s t u a as first _ ih =>
    have hfirst := first.rank_le
    rw [List.countP_cons]
    cases ha : a.isOnward <;> rw [ha] at hfirst <;> simp at hfirst ⊢ <;> omega

theorem Runs.closed_or (h : Runs v s as t) (hothers : .others ∉ as)
    (hs : s.signal.closed = true → s.worker.closed?.isSome = true) :
    t.signal.closed = true → t.worker.closed?.isSome = true := by
  induction h with
  | nil => exact hs
  | cons first _ ih =>
    rw [List.mem_cons, not_or] at hothers
    exact ih hothers.2 (first.closed_or (Ne.symm hothers.1) hs)

/-- Neither thread is left waiting for the other. -/
theorem Threads.Sound.progress (hs : s.Sound v) :
    (∃ o, s.caller = .returned o) ∨
      ∃ time a t, a.isOnward = true ∧ Next v { s with now := s.now + time } a t := by
  obtain ⟨signal, worker, caller, now⟩ := s
  have hworker : worker.Sound v signal now := hs.worker
  cases hworker with
  | calling => exact Or.inr ⟨0, _, _, rfl, .endCall _ _ _⟩
  | @sleeping ended past =>
    have hwaited : ended + (delay v.delays (outcome v.call)).nanos ≤
        now + (delay v.delays (outcome v.call)).nanos := Nat.add_le_add_right past _
    cases hclosed : signal.closed with
    | false => exact Or.inr ⟨_, _, _, rfl, .closeFirst _ hwaited hclosed⟩
    | true => exact Or.inr ⟨_, _, _, rfl, .closeAgain _ hwaited hclosed⟩
  | posting => exact Or.inr ⟨0, _, _, rfl, .post _ _ _ _ _ _⟩
  | finished waited past isClosed =>
    -- from here on it is up to the caller, on a closed signal
    cases caller with
    | looking => exact Or.inr ⟨0, .caller signal.closed, _, isClosed, .hide _ _ (Or.inl rfl) isClosed⟩
    | waiting deadline =>
      exact Or.inr ⟨deadline, .caller signal.closed, _, isClosed, .expire _ _ (Nat.le_add_left deadline now)⟩
    | lookingAgain => exact Or.inr ⟨0, .caller signal.closed, _, isClosed, .hide _ _ (Or.inr rfl) isClosed⟩
    | joining shown => exact Or.inr ⟨0, .caller signal.closed, _, isClosed, .join _ _ _ _ _ _⟩
    | returned o => exact Or.inl ⟨o, rfl⟩

theorem Threads.Sound.exists_returned (hs : s.Sound v) :
    ∃ bs t o, Runs v s bs t ∧ t.caller = .returned o := by
  induction hr : s.rank using Nat.strongRecOn generalizing s with
  | ind r ih =>
    obtain ⟨o, ho⟩ | ⟨time, a, t, honward, hnext⟩ := hs.progress
    · exact ⟨[], s, o, .nil s, ho⟩
    · have hpass : Next v s .time { s with now := s.now + time } := .pass time _ _ _ _
      have hrank : t.rank + 1 ≤ s.rank := by
        have hle := hnext.rank_le
        rwa [honward] at hle
      obtain ⟨bs, u, o, hrest, ho⟩ := ih t.rank (hr ▸ hrank) (hnext.sound (hpass.sound hs)) rfl
      exact ⟨_, u, o, .cons hpass (.cons hnext hrest), ho⟩

theorem sound_start (v : Viewing) (signal : CloseSignal) : Threads.Sound v { signal } :=
  ⟨.calling, fun _ ho => by cases ho⟩

theorem delay_eq (delays : CloseDelays) (o : Outcome) :
    delay delays o = if o = .passed then delays.success else delays.failure := by
  cases o <;> rfl

/-- **A run beside a display.** The caller and the background thread take their steps in any order, with any time in
between, and the display leaves early, on its signal, or never before it. When the caller returns, the call has
ended, the outcome is that of the call without a display, and the signal is closed. The bridge closes the signal
only after the call has ended and the delay has passed, the one for success exactly if the outcome is `passed`;
no other close comes from it. At any time before the caller has returned some thread has an onward step, if not
now then later, there are at most six of them, and each schedule can be carried on until the caller returns. -/
theorem outcome_of_schedule {display : Display} (h : Runs v { signal := display.signal } as s) :
    (∀ o, s.caller = .returned o →
      (∃ ended closed, s.worker = .finished o ended closed) ∧ o = outcome v.call ∧
        o = (visualized v.call display).1 ∧ s.signal.closed = true ∧
        s.signal.closed = (visualized v.call display).2.signal.closed) ∧
    (∀ closed, s.worker.closed? = some closed → ∃ ended, s.worker.ended? = some ended ∧
      ended + (if outcome v.call = .passed then v.delays.success else v.delays.failure).nanos ≤ closed ∧
        closed ≤ s.now) ∧
    (display.signal.closed = false → .others ∉ as → s.signal.closed = true →
      s.worker.closed?.isSome = true) ∧
    ((∃ o, s.caller = .returned o) ∨
      ∃ time a t, a.isOnward = true ∧ Next v { s with now := s.now + time } a t) ∧
    as.countP Mover.isOnward ≤ 6 ∧
    ∃ bs t o, Runs v s bs t ∧ t.caller = .returned o := by
  have hsound : s.Sound v := h.sound (sound_start v display.signal)
  refine ⟨?_, ?_, ?_, hsound.progress, ?_, hsound.exists_returned⟩
  · intro o ho
    obtain ⟨ended, closed, hfinished⟩ := hsound.returned o ho
    have hworker := hsound.worker
    rw [hfinished] at hworker
    cases hworker with
    | finished _ _ isClosed =>
      refine ⟨⟨ended, closed, hfinished⟩, rfl, rfl, isClosed, ?_⟩
      rw [isClosed, visualized, Display.closed_close]
  · intro closed hclosed
    rw [← delay_eq]
    have hworker := hsound.worker
    generalize s.worker = worker at hworker hclosed
    cases hworker with
    | calling | sleeping => cases hclosed
    | posting waited past | finished waited past =>
      cases hclosed
      exact ⟨_, rfl, waited, past⟩
  · intro hopen hothers
    refine h.closed_or hothers ?_
    intro hclosed
    rw [show _ = false from hopen] at hclosed
    cases hclosed
  · have hrank := h.rank_le
    have hstart : Threads.rank { signal := display.signal } ≤ 6 := by
      show 3 + CallerPhase.rank display.signal.closed .looking ≤ 6
      cases display.signal.closed <;> decide
    omega

/-- A display without a terminal leaves before the call breaks off. It is closed 30 ms later all the same. -/
theorem outcome_of_schedule_no_terminal :
    let v : Viewing := {
      call := .error (.text "boom"), delays := ⟨⟨1000000, by decide⟩, ⟨30000000, by decide⟩⟩
      leaves := fun _ shown => shown = .error (.display "no terminal"), poll := 100000000 }
    let display : Display := .failing (.display "no terminal") {}
    ∃ as s ended closed, Runs v { signal := display.signal } as s ∧
      s.caller = .returned (.failedException (.panicked "boom")) ∧ s.signal.closed = true ∧
        s.worker.ended? = some ended ∧ s.worker.closed? = some closed ∧ ended + 30000000 ≤ closed := by
  intro v display
  let o : Outcome := .failedException (.panicked "boom")
  have hleave : Next v { signal := display.signal } (.caller false)
      { signal := display.signal, caller := .joining (.error (.display "no terminal")) } :=
    .leave _ _ .looking rfl
  have hruns : Runs v { signal := display.signal } _
      ⟨display.signal.raise.post, .finished o 0 30000000, .returned o, 0 + 30000000⟩ :=
    .cons hleave <| .cons (.endCall _ _ _) <| .cons (.pass 30000000 _ _ _ _) <|
      .cons (.closeFirst _ (by decide) rfl) <| .cons (.post _ _ _ _ _ _) <| .cons (.join _ _ _ _ _ _) (.nil _)
  obtain ⟨hreturned, hwaited, -⟩ := outcome_of_schedule hruns
  obtain ⟨-, -, -, hclosed, -⟩ := hreturned o rfl
  obtain ⟨ended, hended, hle, -⟩ := hwaited 30000000 rfl
  exact ⟨_, _, ended, 30000000, hruns, rfl, hclosed, hended, rfl, hle⟩

end Bridge

end Lockstep
