import Kagzi.Queue.Subscribers

/-!
# The keys of the queues

`queue_key` puts a colon between the namespace and the task queue, and both may contain
colons themselves.  The queue `c` of the namespace `a:b` and the queue `b:c` of the
namespace `a` have one key, so a `notify` for the one wakes the subscribers of the other
(`keys_collide`).

`separate_iff` says that this is the only way: two queues share a key exactly if one
namespace continues the other by a colon and some text with which, before a colon, the
other queue begins.
-/

namespace Kagzi

open Atomic Broadcast

namespace Queue

namespace Keys

/-! ## What is claimed -/

/-- A notification for the first queue, made here or taken from the channel of the database,
leaves the subscribers of the second as they are. -/
def NeverWakes (capacity : Nat) (ns taskQueue ns' taskQueue' : String) : Prop :=
  ∀ p : NotifierState, Steps (service capacity) (.init .empty []) p →
    ∀ (i : Nat) (r : Receiver String), r ∈ p.store.registry.receivers →
      Subscribers.Obtained p i ns' taskQueue' r →
        ∀ e e' e'' : Supply,
          r ∈ ((service capacity).alone [e, e', e''] p.store
              (notify ns taskQueue)).1.registry.receivers ∧
            r ∈ ((service capacity).alone [e, e'] p.store
              (deliver (queueKey ns taskQueue))).1.registry.receivers

/-- The keys of different queues are different, and notifications for the one wake no
subscriber of the other. -/
def Separate (capacity : Nat) (ns taskQueue ns' taskQueue' : String) : Prop :=
  (queueKey ns taskQueue = queueKey ns' taskQueue' → ns = ns' ∧ taskQueue = taskQueue') ∧
    (¬ (ns = ns' ∧ taskQueue = taskQueue') → NeverWakes capacity ns taskQueue ns' taskQueue')

/-- That is so for any two queues with a name, of any namespaces with a name. -/
def KeysSeparate (capacity : Nat) : Prop :=
  ∀ ns taskQueue ns' taskQueue', ns ≠ "" → taskQueue ≠ "" → ns' ≠ "" → taskQueue' ≠ "" →
    Separate capacity ns taskQueue ns' taskQueue'

/-- The second namespace goes on after the first with a colon and a text, with which and a
colon the first queue begins. -/
def Overlaps (ns taskQueue ns' taskQueue' : String) : Prop :=
  ∃ text, ns' = ns ++ ":" ++ text ∧ taskQueue = text ++ ":" ++ taskQueue'

/-! ## Two names with a separator -/

/-- Where two lists with a separator are equal, the separators are at one place, or one of
the first parts goes on beyond the separator of the other. -/
theorem append_cons_eq_iff {α : Type} {s : α} {a b c d : List α} :
    a ++ s :: b = c ++ s :: d ↔ (a = c ∧ b = d) ∨ (∃ t, c = a ++ s :: t ∧ b = t ++ s :: d) ∨
      ∃ t, a = c ++ s :: t ∧ d = t ++ s :: b := by
  rw [List.append_eq_append_iff]
  constructor
  · rintro (⟨t, rfl, h⟩ | ⟨t, rfl, h⟩)
    · cases t with
      | nil => exact .inl ⟨(List.append_nil a).symm, (List.cons.inj h).2⟩
      | cons x t =>
          obtain ⟨rfl, rfl⟩ := List.cons.inj h
          exact .inr (.inl ⟨t, rfl, rfl⟩)
    · cases t with
      | nil => exact .inl ⟨List.append_nil c, (List.cons.inj h).2.symm⟩
      | cons x t =>
          obtain ⟨rfl, rfl⟩ := List.cons.inj h
          exact .inr (.inr ⟨t, rfl, rfl⟩)
  · rintro (⟨rfl, rfl⟩ | ⟨t, rfl, rfl⟩ | ⟨t, rfl, rfl⟩)
    · exact .inl ⟨[], (List.append_nil a).symm, rfl⟩
    · exact .inl ⟨s :: t, rfl, rfl⟩
    · exact .inr ⟨s :: t, rfl, rfl⟩

theorem overlaps_iff {ns taskQueue ns' taskQueue' : String} :
    Overlaps ns taskQueue ns' taskQueue' ↔
      ∃ t, ns'.toList = ns.toList ++ ':' :: t ∧ taskQueue.toList = t ++ ':' :: taskQueue'.toList := by
  have hcolon : ":".toList = [':'] := rfl
  constructor
  · rintro ⟨text, rfl, rfl⟩
    exact ⟨text.toList, by simp [hcolon], by simp [hcolon]⟩
  · rintro ⟨t, hns, hqueue⟩
    refine ⟨String.ofList t, String.toList_inj.mp ?_, String.toList_inj.mp ?_⟩
    · simp [hns, hcolon]
    · simp [hqueue, hcolon]

section Result
variable {capacity : Nat} {ns taskQueue ns' taskQueue' : String}

/-- Two queues share a key exactly if they are the same, or overlap. -/
theorem queueKey_eq_iff : queueKey ns taskQueue = queueKey ns' taskQueue' ↔
    (ns = ns' ∧ taskQueue = taskQueue') ∨ Overlaps ns taskQueue ns' taskQueue' ∨
      Overlaps ns' taskQueue' ns taskQueue := by
  have hcolon : ":".toList = [':'] := rfl
  rw [overlaps_iff, overlaps_iff, ← String.toList_inj, ← @String.toList_inj ns ns',
    ← @String.toList_inj taskQueue taskQueue', ← append_cons_eq_iff]
  simp [queueKey, hcolon]

/-- Overlapping queues are different. -/
theorem Overlaps.ne (h : Overlaps ns taskQueue ns' taskQueue') : ¬ (ns = ns' ∧ taskQueue = taskQueue') := by
  rintro ⟨rfl, -⟩
  obtain ⟨t, hns, -⟩ := overlaps_iff.mp h
  have hlen := congrArg List.length hns
  simp at hlen

/-! ## The result -/

/-- A delivery leaves the receivers of other keys as they are. -/
theorem mem_deliver {s : State} {key : String} {r : Receiver String} (hr : r ∈ s.registry.receivers)
    (hkey : r.chan.key ≠ key) (e e' : Supply) :
    r ∈ ((service capacity).alone [e, e'] s (deliver key)).1.registry.receivers := by
  cases hget : s.registry.get? key with
  | none => simpa [service, deliver, op, Prog.query, exec, hget] using hr
  | some c =>
      have hne : r.chan ≠ c := fun heq => hkey (heq ▸ Registry.key_of_get? hget)
      simpa [service, deliver, op, Prog.query, exec, hget, State.upon] using
        Registry.mem_send_of_ne hr hne

theorem neverWakes_of_ne (h : queueKey ns taskQueue ≠ queueKey ns' taskQueue') :
    NeverWakes capacity ns taskQueue ns' taskQueue' := by
  intro p hp i r hr hobtained e e' e''
  have hkey : r.chan.key ≠ queueKey ns taskQueue := by
    rw [(Subscribers.known_of_steps hp).key hr hobtained]
    exact h.symm
  refine ⟨?_, mem_deliver hr hkey e e'⟩
  cases hfault : e.fault with
  | true => simpa [service, notify, op, Prog.query, exec, pgNotify, hfault, orError, Prog.ofExcept] using hr
  | false =>
      have hsent : pgNotify e (queueKey ns taskQueue) p.store =
          (.ok (), { p.store with wire := p.store.wire ++ [queueKey ns taskQueue] }) := by
        simp [pgNotify, hfault]
      have hrest := @mem_deliver capacity
        { p.store with wire := p.store.wire ++ [queueKey ns taskQueue] } (queueKey ns taskQueue) r hr
        hkey e' e''
      simpa [service, notify, op, Prog.query, exec, hsent, orError, Prog.ofExcept] using hrest

/-- Two queues are separate exactly if they do not overlap. -/
theorem separate_iff : Separate capacity ns taskQueue ns' taskQueue' ↔
    ¬ Overlaps ns taskQueue ns' taskQueue' ∧ ¬ Overlaps ns' taskQueue' ns taskQueue := by
  constructor
  · rintro ⟨hkeys, -⟩
    constructor
    · exact fun h => h.ne (hkeys (queueKey_eq_iff.mpr (.inr (.inl h))))
    · intro h
      obtain ⟨rfl, rfl⟩ := hkeys (queueKey_eq_iff.mpr (.inr (.inr h)))
      exact h.ne ⟨rfl, rfl⟩
  · rintro ⟨hright, hleft⟩
    have hkeys : queueKey ns taskQueue = queueKey ns' taskQueue' → ns = ns' ∧ taskQueue = taskQueue' :=
      fun h => (queueKey_eq_iff.mp h).resolve_right (not_or.mpr ⟨hright, hleft⟩)
    exact ⟨hkeys, fun hne => neverWakes_of_ne fun h => hne (hkeys h)⟩

/-! ## Two queues with one key -/

/-- Somebody subscribes to the queue `b:c` of the namespace `a`. -/
def subscribed : NotifierState :=
  fireAll (service 16) (.init .empty [])
    (.start (.subscribe "a" "b:c") :: List.replicate 3 (.exec 0 .quiet))

/-- The receiver that is obtained. -/
def receiver : Receiver String := ⟨2, ⟨"a:b:c", 0⟩, 0⟩

/-- A notification for the queue `c` of the namespace `a:b` wakes it. -/
theorem keys_collide : ¬ KeysSeparate 16 := by
  intro h
  have hseparate := h "a:b" "c" "a" "b:c" (by decide) (by decide) (by decide) (by decide)
  have hsteps : Steps (service 16) (.init .empty []) subscribed := AllEnabled.steps (by decide +kernel)
  have hreceiver : receiver ∈ subscribed.store.registry.receivers := by decide +kernel
  have hobtained : Subscribers.Obtained subscribed 0 "a" "b:c" receiver := by
    unfold Subscribers.Obtained
    decide +kernel
  obtain ⟨hkept, -⟩ := hseparate.2 (by decide) subscribed hsteps 0 receiver hreceiver hobtained .quiet
    .quiet .quiet
  have hwoken : receiver ∉ ((service 16).alone [.quiet, .quiet, .quiet] subscribed.store
      (notify "a:b" "c")).1.registry.receivers := by decide +kernel
  exact hwoken hkept

end Result

end Keys

end Queue

end Kagzi
