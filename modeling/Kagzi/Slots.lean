import Kagzi.Server.Footprint
import Kagzi.Server.Templates

/-!
# Slots in sequence

As long as one coordinator runs, nobody edits the schedule, no tick finds too many missed
occurrences and no instance takes a slot that is to be fired, a template is meant to be
fired at one occurrence after the other.  It is, but for the end: after the last
occurrence of its expression a tick moves on to a time 365 days away, and fires the
template then, where nothing occurs (`not_consecutive`).

`fires_in_sequence` says which slots are fired: the first is the next fire time of the
template, and each of the others is the next occurrence after the slot before it, or lies
365 days after a tick if there is none.  The rate limiter may refuse as often as it likes.

The coordinator has created an instance for the next fire time or has not, when it is
between two statements.  `InOrder` is the invariant: in the one case the fire time
continues the slots fired so far, in the other it is the last of them.
-/

namespace Kagzi

open Atomic

namespace Slots

/-- The server, for all requests. -/
abbrev service (cfg : Config) : Service Stmt Stmt.Result World Env Request Status Response :=
  server cfg fun _ => True

/-! ## The slots of a run -/

/-- The slot that a statement has created an instance for. -/
def slotOf (templateRunId : Uuid) (ran : Ran) : Option Int :=
  match creation ran with
  | some (template, slot, some _) => if template = templateRunId then some slot else none
  | _ => none

/-- The slots that were fired, newest first. -/
def slots (templateRunId : Uuid) (trace : List Ran) : List Int :=
  trace.filterMap (slotOf templateRunId)

/-- Slots, newest first, that begin with `first` and of which each comes after the one
before. -/
inductive Consecutive (After : Int → Int → Prop) (first : Int) : List Int → Prop where
  | none : Consecutive After first []
  | first : Consecutive After first [first]
  | next {s s' : Int} {earlier : List Int} :
      Consecutive After first (s :: earlier) → After s s' → Consecutive After first (s' :: s :: earlier)

/-- The slots are consecutive, none is repeated and no occurrence among them is skipped. -/
structure InSequence (After : Int → Int → Prop) (cron : Recurrence) (first : Int)
    (slots : List Int) : Prop where
  consecutive : Consecutive After first slots
  increasing : slots.Pairwise (· > ·)
  complete : ∀ o, cron.Occurs o → first ≤ o → ∀ s ∈ slots, o ≤ s → o ∈ slots

/-- A tick has read the due templates at this time. -/
def Ticked (now : Int) (trace : List Ran) : Prop := ∃ ran ∈ trace, ∃ ts, batch ran = some (now, ts)

/-- The slot is the next occurrence. -/
def NextOccurrence (cron : Recurrence) (_ : List Ran) (s s' : Int) : Prop := cron.next s = some s'

/-- The slot is the next occurrence, or 365 days after a tick if there is none. -/
def NextOrParked (cron : Recurrence) (trace : List Ran) (s s' : Int) : Prop :=
  cron.next s = some s' ∨
    cron.next s = none ∧ ∃ now, Ticked now trace ∧ s ≤ now ∧ s' = now + days 365

/-- One coordinator runs, and is not stopped between an instance and the next fire time.
The schedule is not edited, a tick finds at most `max_catchup` occurrences since the last
fire time, and no instance holds a slot that is to be fired. -/
def Undisturbed (cron : Recurrence) (templateRunId : Uuid) (coordinator : Nat) :
    Condition Stmt Stmt.Result World Env := fun i e q m =>
  Spares templateRunId q ∧
    match q with
    | .createScheduleInstance template fireAt =>
        i = coordinator ∧ (template = templateRunId → ∀ r, ¬ m.store.db.Holds template fireAt r)
    | .updateNextFire runId next last =>
        i = coordinator ∧ (runId = templateRunId →
          (store.exec e (.updateNextFire runId next last) m.store).1 = .ok ())
    | .findDueSchedules now _ =>
        ∀ r ∈ m.store.run templateRunId, ∀ a ∈ r.availableAt,
          (Coordinator.missedCount cron (Coordinator.cursor r a) now : Int) ≤ r.maxCatchup
    | _ => True

/-- In every undisturbed run the slots that are fired for a template are in sequence. -/
def FiresInSequence (cfg : Config) (After : Recurrence → List Ran → Int → Int → Prop) : Prop :=
  ∀ (cron : Recurrence) (templateRunId : Uuid) (w : World) (r₀ : RunRow) (first : Int)
    (coordinator : Nat), Scheduled cfg cron templateRunId w r₀ → r₀.availableAt = some first →
    1 ≤ r₀.maxCatchup → r₀.maxCatchup < 2 ^ 31 → ∀ p : ServerState,
      Steps ((service cfg).restrict (Undisturbed cron templateRunId coordinator)) (.init w []) p →
        InSequence (After cron p.trace) cron first (slots templateRunId p.trace)

/-! ## Consecutive slots -/

section Lists
variable {After After' : Int → Int → Prop} {cron : Recurrence} {first : Int} {fired : List Int}

theorem Consecutive.mono (h : Consecutive After first fired)
    (himp : ∀ s s', After s s' → After' s s') : Consecutive After' first fired := by
  induction h with
  | none => exact .none
  | first => exact .first
  | next _ hafter ih => exact .next ih (himp _ _ hafter)

theorem Consecutive.tail {s : Int} (h : Consecutive After first (s :: fired)) :
    Consecutive After first fired := by
  cases h with
  | first => exact .none
  | next h _ => exact h

theorem Consecutive.increasing (h : Consecutive After first fired)
    (hlt : ∀ s s', After s s' → s < s') : fired.Pairwise (· > ·) := by
  induction h with
  | none => exact .nil
  | first => exact List.pairwise_singleton _ _
  | @next s s' earlier _ hafter ih =>
      refine .cons (fun x hx => ?_) ih
      have hs := hlt s s' hafter
      rcases List.mem_cons.mp hx with rfl | hx
      · exact hs
      · exact Int.lt_trans ((List.pairwise_cons.mp ih).1 x hx) hs

/-- Where no occurrence lies between a slot and the one after it, all are among the
slots. -/
theorem Consecutive.complete (h : Consecutive After first fired)
    (hgap : ∀ s s' o, After s s' → cron.Occurs o → s < o → s' ≤ o) {o : Int} (ho : cron.Occurs o)
    (hfirst : first ≤ o) : ∀ s ∈ fired, o ≤ s → o ∈ fired := by
  induction h with
  | none => exact nofun
  | first =>
      intro s hs hle
      obtain rfl := List.mem_singleton.mp hs
      obtain rfl := Int.le_antisymm hle hfirst
      exact List.mem_singleton.mpr rfl
  | @next s s' earlier _ hafter ih =>
      intro x hx hle
      by_cases hold : o ≤ s
      · exact List.mem_cons_of_mem _ (ih s (List.mem_cons_self ..) hold)
      · have hnext := hgap s s' o hafter ho (by omega)
        rcases List.mem_cons.mp hx with rfl | hx
        · obtain rfl := Int.le_antisymm hle hnext
          exact List.mem_cons_self ..
        · exact List.mem_cons_of_mem _ (ih x hx hle)

variable {trace : List Ran} {s s' o now : Int}

theorem NextOrParked.lt (h : NextOrParked cron trace s s') : s < s' := by
  rcases h with h | ⟨-, now, -, hle, rfl⟩
  · exact cron.lt_next h
  · have hyear : 0 < days 365 := by decide
    omega

theorem NextOrParked.no_gap (h : NextOrParked cron trace s s') (ho : cron.Occurs o) (hlt : s < o) :
    s' ≤ o := by
  rcases h with h | ⟨h, -⟩
  · exact Recurrence.next_le h ho hlt
  · have := Recurrence.le_of_next_none h ho
    omega

theorem Consecutive.inSequence (h : Consecutive (NextOrParked cron trace) first fired) :
    InSequence (NextOrParked cron trace) cron first fired where
  consecutive := h
  increasing := h.increasing fun _ _ => NextOrParked.lt
  complete := fun _ ho hfirst => h.complete (fun _ _ _ => NextOrParked.no_gap) ho hfirst

theorem Ticked.cons (h : Ticked now trace) (ran : Ran) : Ticked now (ran :: trace) :=
  h.imp fun _ h => ⟨List.mem_cons_of_mem _ h.1, h.2⟩

theorem NextOrParked.cons (ran : Ran) (h : NextOrParked cron trace s s') :
    NextOrParked cron (ran :: trace) s s' :=
  h.imp id fun h => ⟨h.1, h.2.imp fun _ h => ⟨h.1.cons ran, h.2⟩⟩

theorem Consecutive.cons (ran : Ran) (h : Consecutive (NextOrParked cron trace) first fired) :
    Consecutive (NextOrParked cron (ran :: trace)) first fired :=
  h.mono fun _ _ => NextOrParked.cons ran

/-- What the coordinator writes for the next fire time. -/
theorem nextOrParked_nextOrYear (hdue : s ≤ now) (hticked : Ticked now trace) :
    NextOrParked cron trace s (Coordinator.nextOrYear cron s now) := by
  unfold Coordinator.nextOrYear
  cases hnext : cron.next s with
  | none => exact .inr ⟨hnext, now, hticked, hdue, rfl⟩
  | some next => exact .inl hnext

theorem slotOf_eq_some {templateRunId : Uuid} {ran : Ran} :
    slotOf templateRunId ran = some s ↔ ∃ runId, creation ran = some (templateRunId, s, some runId) := by
  unfold slotOf
  split
  next template slot runId h =>
    rw [h]
    by_cases htemplate : template = templateRunId
    · subst htemplate
      simp
    · simp [htemplate]
  next hno =>
    constructor
    · exact nofun
    · rintro ⟨runId, h⟩
      exact absurd h (hno _ _ _)

end Lists

/-! ## The template -/

section Facts
variable (cfg : Config) (cron : Recurrence) (templateRunId : Uuid) (first : Int)

/-- The row of the template, with the next fire time `a`. -/
structure Track (a : Int) (m : Now) : Prop where
  template : m.store.HasTemplate templateRunId
  row : ∃ r, m.store.run templateRunId = some r ∧ r.status = .scheduled ∧ r.availableAt = some a ∧
    (∃ expr, r.cronExpr = some expr ∧ cfg.cronSchedule expr = .ok cron) ∧ 1 ≤ r.maxCatchup ∧
      r.maxCatchup < 2 ^ 31

/-- The next fire time continues the slots fired so far. -/
structure Ready (a : Int) (m : Now) : Prop extends Track cfg cron templateRunId a m where
  continues : Consecutive (NextOrParked cron m.trace) first (a :: slots templateRunId m.trace)

/-- The next fire time has just been fired. -/
structure Moving (a : Int) (m : Now) : Prop extends Track cfg cron templateRunId a m where
  consecutive : Consecutive (NextOrParked cron m.trace) first (slots templateRunId m.trace)
  last : (slots templateRunId m.trace).head? = some a

/-- What the coordinator sees to: it fires the next fire time, and moves on from there. -/
def Guarded : Condition Stmt Stmt.Result World Env := fun _ _ q m =>
  match q with
  | .createScheduleInstance template fireAt =>
      template = templateRunId → Ready cfg cron templateRunId first fireAt m
  | .updateNextFire runId next _ =>
      runId = templateRunId → ∃ a, Moving cfg cron templateRunId first a m ∧
        NextOrParked cron m.trace a next
  | _ => True

/-- The slots fired are consecutive, and the coordinator has fired them. -/
structure InOrder (coordinator : Nat) (m : Now) : Prop where
  track : ∃ a, Ready cfg cron templateRunId first a m ∨ Moving cfg cron templateRunId first a m
  sole : ∀ ran ∈ m.trace, ∀ s ∈ slotOf templateRunId ran, ran.caller = coordinator

/-- The statement leaves the slots and the fire times of the template alone. -/
def Rests : Stmt → Prop
  | .createScheduleInstance template _ => template ≠ templateRunId
  | .updateNextFire runId _ _ => runId ≠ templateRunId
  | _ => True

abbrev engine (coordinator : Nat) : Engine Stmt Stmt.Result World Env :=
  store.restrict (Undisturbed cron templateRunId coordinator)

end Facts

section Statements
variable {cfg : Config} {cron : Recurrence} {templateRunId : Uuid} {first a : Int} {coordinator : Nat}
  {i : Nat} {e : Env} {q : Stmt} {m : Now}

theorem slots_after (hq : ∀ fireAt, q ≠ .createScheduleInstance templateRunId fireAt) :
    slots templateRunId (m.after store i e q).trace =
      slots templateRunId m.trace := by
  refine List.filterMap_cons_none (Option.eq_none_iff_forall_not_mem.mpr fun s hs => ?_)
  obtain ⟨runId, h⟩ := slotOf_eq_some.mp hs
  exact hq s (creation_inv h)

/-- The row of the template is kept by all statements that do not move its fire time. -/
theorem Track.after (h : Track cfg cron templateRunId a m) (hspare : Spares templateRunId q)
    (hq : ∀ next last, q ≠ .updateNextFire templateRunId next last) :
    Track cfg cron templateRunId a (m.after store i e q) := by
  obtain ⟨htemplate, r, hr, hs, hav, hexpr, hpos, hmax⟩ := h
  obtain rfl := Db.runId_of_run hr
  obtain ⟨r', hr', hsame, hchange⟩ := scheduled_change (e := e) hspare hr hs
  refine ⟨htemplate.exec hspare.deletes e, r', hr', hsame.status.trans hs, ?_, hsame.cronExpr ▸ hexpr,
    hsame.maxCatchup ▸ hpos, hsame.maxCatchup ▸ hmax⟩
  cases hchange with
  | same hav' _ => exact hav'.trans hav
  | moved hmoved _ _ => exact absurd hmoved (hq _ _)

theorem Rests.create (h : Rests templateRunId q) (fireAt : Int) :
    q ≠ .createScheduleInstance templateRunId fireAt := fun hq => by
  subst hq
  exact h rfl

theorem Rests.move (h : Rests templateRunId q) (next : Int) (last : Option Int) :
    q ≠ .updateNextFire templateRunId next last := fun hq => by
  subst hq
  exact h rfl

theorem Ready.after (h : Ready cfg cron templateRunId first a m) (hspare : Spares templateRunId q)
    (hq : Rests templateRunId q) :
    Ready cfg cron templateRunId first a (m.after store i e q) where
  toTrack := h.toTrack.after hspare hq.move
  continues := by
    rw [slots_after hq.create]
    exact h.continues.cons _

theorem Moving.after (h : Moving cfg cron templateRunId first a m) (hspare : Spares templateRunId q)
    (hq : Rests templateRunId q) :
    Moving cfg cron templateRunId first a (m.after store i e q) where
  toTrack := h.toTrack.after hspare hq.move
  consecutive := by
    rw [slots_after hq.create]
    exact h.consecutive.cons _
  last := by
    rw [slots_after hq.create]
    exact h.last

/-- An instance for the next fire time. -/
theorem Ready.created {runId : Uuid} (h : Ready cfg cron templateRunId first a m)
    (hres : (store.exec e (.createScheduleInstance templateRunId a) m.store).1 = .ok (some runId)) :
    Moving cfg cron templateRunId first a (m.after store i e
      (.createScheduleInstance templateRunId a)) := by
  have hslots : slots templateRunId (m.after store i e
      (.createScheduleInstance templateRunId a)).trace = a :: slots templateRunId m.trace := by
    refine List.filterMap_cons_some (slotOf_eq_some.mpr ⟨runId, ?_⟩)
    show creation ⟨i, e, _, (store.exec e (.createScheduleInstance templateRunId a) m.store).1⟩ = _
    rw [hres]
    rfl
  exact
    { toTrack := h.toTrack.after trivial nofun
      consecutive := hslots ▸ h.continues.cons _
      last := hslots ▸ rfl }

/-- A statement that creates no instance after all. -/
theorem Ready.uncreated (h : Ready cfg cron templateRunId first a m)
    (hres : ∀ runId, (store.exec e (.createScheduleInstance templateRunId a) m.store).1 ≠
      .ok (some runId)) :
    Ready cfg cron templateRunId first a (m.after store i e
      (.createScheduleInstance templateRunId a)) := by
  have hslots : slots templateRunId (m.after store i e
      (.createScheduleInstance templateRunId a)).trace = slots templateRunId m.trace := by
    refine List.filterMap_cons_none (Option.eq_none_iff_forall_not_mem.mpr fun s hs => ?_)
    obtain ⟨runId, hcreation⟩ := slotOf_eq_some.mp hs
    obtain rfl : a = s := (Stmt.createScheduleInstance.inj (creation_inv hcreation)).2
    exact hres runId (answer_of_creation hcreation)
  exact
    { toTrack := h.toTrack.after trivial nofun
      continues := hslots ▸ h.continues.cons _ }

/-- The next fire time is moved on. -/
theorem Moving.moved {next : Int} {last : Option Int} (h : Moving cfg cron templateRunId first a m)
    (hafter : NextOrParked cron m.trace a next)
    (hres : (store.exec e (.updateNextFire templateRunId next last) m.store).1 = .ok ()) :
    Ready cfg cron templateRunId first next (m.after store i e
      (.updateNextFire templateRunId next last)) where
  template := h.template.exec (fun hq => by cases hq) e
  row := by
    obtain ⟨r, hr, hs, -, hexpr, hpos, hmax⟩ := h.row
    refine ⟨RunRow.nextFire next last r, ?_, hs, rfl, hexpr, hpos, hmax⟩
    exact (updateNextFire_ok hres).trans (by rw [hr]; rfl)
  continues := by
    rw [slots_after fun _ hq => by cases hq]
    obtain ⟨earlier, hslots⟩ := List.head?_eq_some_iff.mp h.last
    have hconsecutive := h.consecutive
    rw [hslots] at hconsecutive ⊢
    exact (hconsecutive.next hafter).cons _

theorem rests_or (templateRunId : Uuid) (q : Stmt) : Rests templateRunId q ∨
    (∃ fireAt, q = .createScheduleInstance templateRunId fireAt) ∨
      ∃ next last, q = .updateNextFire templateRunId next last := by
  cases q with
  | createScheduleInstance template fireAt =>
      by_cases h : template = templateRunId
      · exact .inr (.inl ⟨fireAt, h ▸ rfl⟩)
      · exact .inl h
  | updateNextFire runId next last =>
      by_cases h : runId = templateRunId
      · exact .inr (.inr ⟨next, last, h ▸ rfl⟩)
      · exact .inl h
  | _ => exact .inl trivial

/-- The fire times and the slots stay in order. -/
theorem inOrder_invariant (first : Int) :
    Invariant ((engine cron templateRunId coordinator).restrict
        (Guarded cfg cron templateRunId first))
      (InOrder cfg cron templateRunId first coordinator) := by
  rintro i e q m ⟨⟨a, h⟩, hsole⟩ ⟨⟨-, hspare, hq⟩, hguard⟩
  constructor
  · rcases rests_or templateRunId q with hrests | ⟨fireAt, rfl⟩ | ⟨next, last, rfl⟩
    · exact ⟨a, h.imp (fun h => h.after hspare hrests) fun h => h.after hspare hrests⟩
    · have hready := hguard rfl
      refine ⟨fireAt, ?_⟩
      by_cases hres : ∃ runId, (store.exec e (.createScheduleInstance templateRunId fireAt) m.store).1 =
          .ok (some runId)
      · obtain ⟨runId, hres⟩ := hres
        exact .inr (hready.created hres)
      · exact .inl (hready.uncreated fun runId hrun => hres ⟨runId, hrun⟩)
    · obtain ⟨a', hmoving, hafter⟩ := hguard rfl
      exact ⟨next, .inl (hmoving.moved hafter (hq.2 rfl))⟩
  · intro ran hran s hs
    rcases List.mem_cons.mp hran with rfl | hran
    · obtain ⟨runId, hcreation⟩ := slotOf_eq_some.mp hs
      obtain rfl := creation_inv hcreation
      exact hq.1
    · exact hsole ran hran s hs

end Statements

/-! ## The coordinator -/

section Coordinator
variable {cfg : Config} {cron : Recurrence} {templateRunId : Uuid} {first a now : Int}
  {coordinator : Nat}

/-- A property that only the statements on the fire times of the template can destroy. -/
def Lasting (templateRunId : Uuid) (L : Now → Prop) : Prop :=
  ∀ i e q m, L m → Spares templateRunId q → Rests templateRunId q →
    L (m.after store i e q)

theorem ready_lasting :
    Lasting templateRunId (Ready cfg cron templateRunId first a) :=
  fun _ _ _ _ h hspare hrests => h.after hspare hrests

theorem moving_lasting :
    Lasting templateRunId (Moving cfg cron templateRunId first a) :=
  fun _ _ _ _ h hspare hrests => h.after hspare hrests

theorem ticked_lasting : Lasting templateRunId fun m => Ticked now m.trace :=
  fun _ _ _ _ h _ _ => h.cons _

theorem Lasting.and {L L' : Now → Prop} (h : Lasting templateRunId L)
    (h' : Lasting templateRunId L') :
    Lasting templateRunId fun m => L m ∧ L' m :=
  fun i e q m hm hspare hrests => ⟨h i e q m hm.1 hspare hrests, h' i e q m hm.2 hspare hrests⟩

theorem Lasting.exists {ι : Type} {L : ι → Now → Prop}
    (h : ∀ x, Lasting templateRunId (L x)) :
    Lasting templateRunId fun m => ∃ x, L x m :=
  fun i e q m ⟨x, hm⟩ hspare hrests => ⟨x, h x i e q m hm hspare hrests⟩

/-- The other calls make no statement on the fire times. -/
theorem Lasting.stable {L : Now → Prop} (h : Lasting templateRunId L) :
    Stable (engine cron templateRunId coordinator) (Guarded cfg cron templateRunId first)
      coordinator L := by
  intro j e q m hj hm ha _
  refine h j e q m hm ha.2.1 ?_
  rcases rests_or templateRunId q with hrests | ⟨fireAt, rfl⟩ | ⟨next, last, rfl⟩
  · exact hrests
  · exact absurd ha.2.2.1 hj
  · exact absurd ha.2.2.1 hj

theorem Rests.guarded {i : Nat} {e : Env} {q : Stmt} {m : Now} (h : Rests templateRunId q) :
    Guarded cfg cron templateRunId first i e q m := by
  cases q with
  | createScheduleInstance _ _ => exact fun heq => absurd heq h
  | updateNextFire _ _ _ => exact fun heq => absurd heq h
  | _ => trivial

/-- The parts of the coordinator that leave the template alone. -/
theorem sat_rests {α ε : Type} {p : Prog Stmt Stmt.Result ε α} {L : Now → Prop}
    (hL : Lasting templateRunId L) (hp : p.Uses (Rests templateRunId)) :
    Sat (engine cron templateRunId coordinator) (Guarded cfg cron templateRunId first) coordinator
      L p (fun _ => L) (fun _ => L) :=
  Sat.of_uses hp hL.stable fun e q m hrests hm ha =>
    ⟨hrests.guarded, hL coordinator e q m hm ha.2.1 hrests⟩

/-- The coordinator is between two templates. -/
def Idle (cfg : Config) (cron : Recurrence) (templateRunId : Uuid) (first : Int) (m : Now) : Prop :=
  ∃ a, Ready cfg cron templateRunId first a m

theorem idle_lasting : Lasting templateRunId (Idle cfg cron templateRunId first) :=
  Lasting.exists fun _ => ready_lasting

theorem sat_create :
    Sat (engine cron templateRunId coordinator) (Guarded cfg cron templateRunId first) coordinator
      (fun m => Ready cfg cron templateRunId first a m ∧ Ticked now m.trace)
      (sql (.createScheduleInstance templateRunId a))
      (fun answer m => answer.isSome = true ∧ Moving cfg cron templateRunId first a m ∧
        Ticked now m.trace)
      (fun _ => Idle cfg cron templateRunId first) := by
  rintro e m ⟨hready, hticked⟩ ⟨-, -, -, hfree⟩
  refine ⟨fun _ => hready, ?_⟩
  show ∃ K', _ ∧ _ ∧ Sat _ _ _ K'
    (Prog.ofExcept (store.exec e (.createScheduleInstance templateRunId a) m.store).1) _ _
  cases hres : (store.exec e (.createScheduleInstance templateRunId a) m.store).1 with
  | error x =>
      refine ⟨_, idle_lasting.stable, ⟨a, hready.uncreated fun runId h => ?_⟩, fun _ h => h⟩
      cases hres.symm.trans h
  | ok answer =>
      cases answer with
      | none =>
          obtain ⟨r, hr⟩ := taken_of_none hready.template hres
          exact absurd hr (hfree rfl r)
      | some runId =>
          exact ⟨_, (moving_lasting.and ticked_lasting).stable, ⟨hready.created hres, hticked.cons _⟩,
            fun _ h => ⟨rfl, h⟩⟩

theorem sat_move {last : Option Int} (hdue : a ≤ now) :
    Sat (engine cron templateRunId coordinator) (Guarded cfg cron templateRunId first) coordinator
      (fun m => Moving cfg cron templateRunId first a m ∧ Ticked now m.trace)
      (sql (.updateNextFire templateRunId (Coordinator.nextOrYear cron a now) last))
      (fun _ => Idle cfg cron templateRunId first) (fun _ => Idle cfg cron templateRunId first) := by
  rintro e m ⟨hmoving, hticked⟩ ⟨-, -, -, hok⟩
  have hafter : NextOrParked cron m.trace a (Coordinator.nextOrYear cron a now) :=
    nextOrParked_nextOrYear hdue hticked
  refine ⟨fun _ => ⟨a, hmoving, hafter⟩, _, idle_lasting.stable, ⟨_, hmoving.moved hafter (hok rfl)⟩, ?_⟩
  cases (engine cron templateRunId coordinator).exec e (.updateNextFire templateRunId
      (Coordinator.nextOrYear cron a now) last) m.store |>.1 with
  | error x => exact fun _ h => h
  | ok _ => exact fun _ h => h

/-! ### One tick -/

theorem fireTemplate_rests {t : WorkflowRun} (ht : t.runId ≠ templateRunId) :
    (Coordinator.fireTemplate cfg now t).Uses (Rests templateRunId) := by
  have hcheck : Rests templateRunId .rateCheck := trivial
  unfold Coordinator.fireTemplate
  split
  next => trivial
  next => trivial
  next next _ =>
    have hmove : Rests templateRunId (.updateNextFire t.runId next (some now)) := ht
    exact uses_sql hmove
  next fireAt next _ =>
    have hcreate : Rests templateRunId (.createScheduleInstance t.runId fireAt) := ht
    have hmove : Rests templateRunId (.updateNextFire t.runId next (some fireAt)) := ht
    have hnotify : Rests templateRunId (.notify t.ns t.taskQueue) := trivial
    refine (uses_sql hcheck).bind fun granted => ?_
    cases granted with
    | false => trivial
    | true =>
        refine (uses_sql hcreate).bind fun created => ?_
        cases created with
        | none => exact uses_sql hmove
        | some runId => exact (uses_sql hnotify).attempt.bind fun _ => uses_sql hmove

theorem fireTemplates_rests {ts : List WorkflowRun} (hts : ∀ t ∈ ts, t.runId ≠ templateRunId) :
    (Coordinator.fireTemplates cfg now ts).Uses (Rests templateRunId) := by
  induction ts with
  | nil => trivial
  | cons t ts ih =>
      exact (fireTemplate_rests (hts t (List.mem_cons_self ..))).bind fun _ =>
        ih fun t' ht' => hts t' (List.mem_cons_of_mem _ ht')

/-- What a tick knows of the template it has read: it is to be fired. -/
structure Known (cfg : Config) (cron : Recurrence) (now a : Int) (t : WorkflowRun) : Prop where
  due : a ≤ now
  decision : Coordinator.decision cfg now t.toRunRow = .fire a (Coordinator.nextOrYear cron a now)

/-- The template itself.  Where the rate limiter refuses, the slot remains to be fired. -/
theorem sat_fireTemplate {t : WorkflowRun} (ht : t.runId = templateRunId)
    (h : Known cfg cron now a t) :
    Sat (engine cron templateRunId coordinator) (Guarded cfg cron templateRunId first) coordinator
      (fun m => Ready cfg cron templateRunId first a m ∧ Ticked now m.trace)
      (Coordinator.fireTemplate cfg now t) (fun _ => Idle cfg cron templateRunId first)
      (fun _ => Idle cfg cron templateRunId first) := by
  subst ht
  have hcheck : Rests t.runId .rateCheck := trivial
  have hnotify : Rests t.runId (.notify t.ns t.taskQueue) := trivial
  unfold Coordinator.fireTemplate
  rw [h.decision]
  refine Sat.bind ((sat_rests (ready_lasting.and ticked_lasting) (uses_sql hcheck)).mono
    (fun _ h => h) (fun _ _ h => h) fun _ _ h => ⟨a, h.1⟩) fun granted => ?_
  cases granted with
  | false => exact fun m hm => ⟨a, hm.1⟩
  | true =>
      refine Sat.bind sat_create fun created => Sat.of_fact fun hsome => ?_
      cases created with
      | none => cases hsome
      | some runId =>
          refine Sat.bind ((sat_rests (moving_lasting.and ticked_lasting) (uses_sql hnotify)).attempt
            (R := fun _ m => Moving cfg cron t.runId first a m ∧ Ticked now m.trace)
            (fun _ _ h => h) fun _ _ h => h) fun _ => ?_
          exact sat_move h.due

/-- A batch has the template once at most. -/
theorem sat_fireTemplates {ts : List WorkflowRun}
    (hnodup : ts.Pairwise fun t t' => t.runId ≠ t'.runId)
    (h : ∀ t ∈ ts, t.runId = templateRunId → Known cfg cron now a t) :
    Sat (engine cron templateRunId coordinator) (Guarded cfg cron templateRunId first) coordinator
      (fun m => Ready cfg cron templateRunId first a m ∧ Ticked now m.trace)
      (Coordinator.fireTemplates cfg now ts) (fun _ => Idle cfg cron templateRunId first)
      (fun _ => Idle cfg cron templateRunId first) := by
  induction ts with
  | nil => exact fun m hm => ⟨a, hm.1⟩
  | cons t ts ih =>
      obtain ⟨hne, hnodup⟩ := List.pairwise_cons.mp hnodup
      by_cases ht : t.runId = templateRunId
      · refine Sat.bind (sat_fireTemplate ht (h t (List.mem_cons_self ..) ht)) fun _ => ?_
        exact sat_rests idle_lasting
          (fireTemplates_rests fun t' ht' heq => hne t' ht' (ht.trans heq.symm))
      · refine Sat.bind ((sat_rests (ready_lasting.and ticked_lasting) (fireTemplate_rests ht)).mono
          (fun _ h => h) (fun _ _ h => h) fun _ _ h => ⟨a, h.1⟩) fun _ => ?_
        exact ih hnodup fun t' ht' => h t' (List.mem_cons_of_mem _ ht')

/-- What a read says of the template. -/
theorem known_of_read {e : Env} {limit : Int} {m : Now} {ts : List WorkflowRun}
    (h : Ready cfg cron templateRunId first a m)
    (hmissed : ∀ r ∈ m.store.run templateRunId, ∀ a ∈ r.availableAt,
      (Coordinator.missedCount cron (Coordinator.cursor r a) now : Int) ≤ r.maxCatchup)
    (hres : (store.exec e (.findDueSchedules now limit) m.store).1 = .ok ts) :
    ∀ t ∈ ts, t.runId = templateRunId → Known cfg cron now a t := by
  intro t ht hid
  obtain ⟨hrun, -, hdue, -⟩ := mem_findDueSchedules hres ht
  obtain ⟨-, r, hr, -, hav, hexpr, hpos, hmax⟩ := h.toTrack
  rw [hid, hr] at hrun
  obtain rfl := Option.some.inj hrun
  have hcount := hmissed _ hr a hav
  have husize := asUsize_of_nonneg (by omega) hmax
  refine ⟨?_, ?_⟩
  · unfold RunRow.due at hdue
    rw [hav] at hdue
    simpa using hdue
  · rw [decision_eq hav hexpr, if_neg (by omega), if_neg (by omega)]

theorem sat_fireDueSchedules :
    Sat (engine cron templateRunId coordinator) (Guarded cfg cron templateRunId first) coordinator
      (Idle cfg cron templateRunId first) (Coordinator.fireDueSchedules cfg)
      (fun _ => Idle cfg cron templateRunId first) (fun _ => Idle cfg cron templateRunId first) := by
  have hclock : Rests templateRunId .utcNow := trivial
  refine Sat.bind (sat_rests idle_lasting (uses_sql hclock)) fun now => ?_
  have hread : Sat (engine cron templateRunId coordinator) (Guarded cfg cron templateRunId first)
      coordinator (Idle cfg cron templateRunId first)
      (sql (.findDueSchedules now cfg.coordinator.batchSize))
      (fun (ts : List WorkflowRun) m => ∃ a, (ts.Pairwise (fun t t' => t.runId ≠ t'.runId) ∧
        ∀ t ∈ ts, t.runId = templateRunId → Known cfg cron now a t) ∧
          Ready cfg cron templateRunId first a m ∧ Ticked now m.trace)
      (fun _ => Idle cfg cron templateRunId first) := by
    rintro e m ⟨a, hready⟩ ⟨-, -, hmissed⟩
    refine ⟨trivial, ?_⟩
    show ∃ K', _ ∧ _ ∧ Sat _ _ _ K'
      (Prog.ofExcept (store.exec e (.findDueSchedules now cfg.coordinator.batchSize) m.store).1) _ _
    have hready' : Ready cfg cron templateRunId first a
        (m.after store coordinator e (.findDueSchedules now cfg.coordinator.batchSize)) :=
      hready.after trivial trivial
    cases hres : (store.exec e (.findDueSchedules now cfg.coordinator.batchSize) m.store).1 with
    | error x => exact ⟨_, idle_lasting.stable, ⟨a, hready'⟩, fun _ h => h⟩
    | ok ts =>
        refine ⟨_, (ready_lasting.and ticked_lasting).stable, ⟨hready', ?_⟩, fun m' hm' =>
          ⟨a, ⟨findDueSchedules_nodup hres, known_of_read hready hmissed hres⟩, hm'⟩⟩
        refine ⟨_, List.mem_cons_self .., ts, ?_⟩
        show batch ⟨coordinator, e, _, (store.exec e (.findDueSchedules now
          cfg.coordinator.batchSize) m.store).1⟩ = _
        rw [hres]
        rfl
  exact Sat.bind hread fun ts => Sat.of_exists fun a => Sat.of_fact fun h => sat_fireTemplates h.1 h.2

theorem sat_run (ticks : Nat) :
    Sat (engine cron templateRunId coordinator) (Guarded cfg cron templateRunId first) coordinator
      (Idle cfg cron templateRunId first) (Coordinator.run cfg ticks)
      (fun _ => Idle cfg cron templateRunId first) (fun _ => Idle cfg cron templateRunId first) := by
  induction ticks with
  | zero => exact fun _ h => h
  | succ ticks ih =>
      have hmark : Rests templateRunId (.markStaleOffline cfg.coordinator.workerStaleThresholdSecs) :=
        trivial
      refine Sat.bind ?_ fun errors => Sat.bind ih fun rest _ h => h
      refine Sat.bind (sat_fireDueSchedules.attempt
        (R := fun _ => Idle cfg cron templateRunId first) (fun _ _ h => h) fun _ _ h => h) fun fired => ?_
      exact Sat.bind ((sat_rests idle_lasting (uses_sql hmark)).attempt
        (R := fun _ => Idle cfg cron templateRunId first) (fun _ _ h => h) fun _ _ h => h)
        fun _ _ h => h

/-! ### All requests -/

/-- A coordinator that has made no statement has fired nothing yet. -/
theorem InOrder.idle {m : Now} (h : InOrder cfg cron templateRunId first coordinator m)
    (hfresh : ∀ ran ∈ m.trace, ran.caller ≠ coordinator) : Idle cfg cron templateRunId first m := by
  obtain ⟨⟨a, hready | hmoving⟩, hsole⟩ := h
  · exact ⟨a, hready⟩
  · obtain ⟨ran, hran, hs⟩ := List.mem_filterMap.mp (List.mem_of_mem_head? hmoving.last)
    exact absurd (hsole ran hran a hs) (hfresh ran hran)

theorem serves :
    Serves ((service cfg).restrict (Undisturbed cron templateRunId coordinator))
      (Guarded cfg cron templateRunId first) (InOrder cfg cron templateRunId first coordinator)
      (fun _ _ _ _ => True) (fun _ _ _ _ => True) := by
  intro i req hacc
  by_cases hco : i = coordinator ∧ ∃ ticks, req = .coordinator ticks
  · obtain ⟨rfl, ticks, rfl⟩ := hco
    refine ⟨_, idle_lasting.stable, fun m hm hfresh => hm.idle hfresh, ?_⟩
    refine Sat.bind ((sat_run ticks).mono (fun _ h => h) (fun _ _ h => h) fun _ _ _ => trivial)
      fun errors m _ => trivial
  · have hinv : Invariant ((engine cron templateRunId coordinator).restrict
        (Guarded cfg cron templateRunId first)) (InOrder cfg cron templateRunId first coordinator) :=
      inOrder_invariant first
    refine ⟨_, hinv.stable, fun m hm _ => hm, ?_⟩
    refine (Sat.of_uses (handle_uses cfg req) hinv.stable fun e q m hq hm ha => ?_).mono
      (fun _ hm => hm) (fun _ _ _ => trivial) (fun _ _ _ => trivial)
    have hΓ : Guarded cfg cron templateRunId first i e q m := by
      cases q with
      | createScheduleInstance template fireAt => exact absurd ⟨ha.2.2.1, hq⟩ hco
      | updateNextFire runId next last => exact absurd ⟨ha.2.2.1, hq⟩ hco
      | _ => trivial
    exact ⟨hΓ, hinv i e q m hm ⟨ha, hΓ⟩⟩

end Coordinator

/-- Every undisturbed run fires the slots of a template in sequence. -/
theorem fires_in_sequence (cfg : Config) : FiresInSequence cfg NextOrParked := by
  intro cron templateRunId w r₀ first coordinator hw hfirst hpos hmax p h
  have hstart : InOrder cfg cron templateRunId first coordinator ⟨w, []⟩ :=
    { track := ⟨first, .inl
        { template := ⟨⟨r₀, hw.run⟩, hw.payload⟩
          row := ⟨r₀, hw.run, hw.status, hfirst, hw.expr, hpos, hmax⟩
          continues := .first }⟩
      sole := fun ran hran => by cases hran }
  obtain ⟨hrun, -⟩ := h.sound serves (inOrder_invariant first) hstart (sound_nil w)
  obtain ⟨⟨a, hready | hmoving⟩, -⟩ := hrun.invariant (inOrder_invariant first) hstart
  · exact hready.continues.tail.inSequence
  · exact hmoving.consecutive.inSequence

/-! ## Runs -/

instance (cron : Recurrence) (templateRunId : Uuid) (coordinator i : Nat) (e : Env) (q : Stmt)
    (m : Now) : Decidable (Undisturbed cron templateRunId coordinator i e q m) := by
  apply Stmt.casesOn (motive := fun q =>
    Decidable (Undisturbed cron templateRunId coordinator i e q m)) q
  case createScheduleInstance =>
    intro template fireAt
    exact decidable_of_iff (Spares templateRunId (.createScheduleInstance template fireAt) ∧
      i = coordinator ∧ (template = templateRunId → ¬ m.store.db.slotTaken template fireAt = true))
      (by simp only [Undisturbed, slotTaken_iff, not_exists])
  case updateNextFire =>
    intro runId next last
    exact inferInstanceAs (Decidable (Spares templateRunId (.updateNextFire runId next last) ∧
      i = coordinator ∧ (runId = templateRunId →
        (store.exec e (.updateNextFire runId next last) m.store).1 = .ok ())))
  case findDueSchedules =>
    intro now limit
    exact inferInstanceAs (Decidable (Spares templateRunId (.findDueSchedules now limit) ∧
      ∀ r ∈ m.store.run templateRunId, ∀ a ∈ r.availableAt,
        (Coordinator.missedCount cron (Coordinator.cursor r a) now : Int) ≤ r.maxCatchup))
  all_goals
    intros
    exact inferInstanceAs (Decidable (_ ∧ True))

/-- A tick that the rate limiter refuses, and two that it does not. -/
def threeTicks : List (Action Env Request) :=
  [.start (.coordinator 3)] ++ runs 0 3 { Env.quiet 12 2 with rand := 1 } ++
    runs 0 1 (.quiet 12 2) ++ runs 0 7 (.quiet 21 3) ++ runs 0 7 (.quiet 22 4)

theorem fires_in_sequence_refused :
    InSequence (NextOrParked tenSeconds
        (fireAll (service .sample) (.init (tenSecondsWorld 50) []) threeTicks).trace)
      tenSeconds (seconds 10) [seconds 20, seconds 10] := by
  have hscheduled : Scheduled .sample tenSeconds 1 (tenSecondsWorld 50) (tenSecondsRow 50) :=
    scheduled_tenSeconds (by decide +kernel) (by decide +kernel)
  let S := (service .sample).restrict (Undisturbed tenSeconds 1 0)
  have hsteps : Steps S (.init (tenSecondsWorld 50) [])
      (fireAll S (.init (tenSecondsWorld 50) []) threeTicks) := AllEnabled.steps (by decide +kernel)
  rw [fireAll_restrict] at hsteps
  have hslots : slots 1 (fireAll (service .sample) (.init (tenSecondsWorld 50) []) threeTicks).trace =
      [seconds 20, seconds 10] := by decide +kernel
  have hsequence := fires_in_sequence .sample tenSeconds 1 (tenSecondsWorld 50) (tenSecondsRow 50)
    (seconds 10) 0 hscheduled rfl (by decide) (by decide) _ hsteps
  rwa [hslots] at hsequence

/-- The last second of the year 2100, which is as far as the expressions reach. -/
def lastSecond : Int := 4133980799

/-- An expression for the last second of a year, in the year 2100. -/
def lastYearConfig : Config :=
  { Config.sample with cronSchedule := fun _ => .ok (.once (seconds lastSecond)) }

/-- A schedule that is created in that year. -/
def lastYear : World :=
  (fireAll (service lastYearConfig) (.init (.empty (seconds 4133000000)) [])
    ([.start (.createWorkflowSchedule ⟨"ns", "s", "queue", "type", "59 59 23 31 12 *", none, none,
      none, none⟩)] ++ runs 0 9 (.quiet 4133000000 1))).store

/-- The row of its template. -/
def lastRow : RunRow :=
  { tenSecondsRow 50 with
    createdAt := some (seconds 4133000000)
    availableAt := some (seconds lastSecond)
    cronExpr := some "59 59 23 31 12 *" }

/-- A tick at the last occurrence, and one 365 days later. -/
def twoTicks : List (Action Env Request) :=
  [.start (.coordinator 2)] ++ runs 0 7 (.quiet lastSecond 2) ++
    runs 0 7 (.quiet (lastSecond + 31536000) 3)

/-- The second tick fires a slot at which nothing occurs. -/
theorem not_consecutive : ¬ ∀ cfg, FiresInSequence cfg NextOccurrence := by
  intro hall
  have hrow : lastYear.run 1 = some lastRow := by decide +kernel
  have hpayload : lastYear.db.HasPayload 1 := by
    unfold Db.HasPayload
    decide +kernel
  let S := (service lastYearConfig).restrict (Undisturbed (.once (seconds lastSecond)) 1 0)
  let p := fireAll S (.init lastYear []) twoTicks
  have hsteps : Steps S (.init lastYear []) p := AllEnabled.steps (by decide +kernel)
  have hsequence := hall lastYearConfig (.once (seconds lastSecond)) 1 lastYear lastRow
    (seconds lastSecond) 0 ⟨hrow, hpayload, rfl, _, rfl, rfl⟩ rfl (by decide) (by decide) p hsteps
  have hslots : slots 1 p.trace = [seconds (lastSecond + 31536000), seconds lastSecond] := by
    decide +kernel
  have hconsecutive := hsequence.consecutive
  rw [hslots] at hconsecutive
  cases hconsecutive with
  | next _ hafter =>
      have hnext : (Recurrence.once (seconds lastSecond)).next (seconds lastSecond) = some _ := hafter
      exact absurd hnext (by decide)

end Slots

end Kagzi
