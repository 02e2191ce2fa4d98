import Mathlib.Data.List.Basic
import Mathlib.Data.List.Pairwise

/-!
# Tables with constraints

A table is a list of rows no two of which clash and each of which is valid.
`Row.Clash` collects the primary key and the unique indexes of a table,
`Row.Valid` its check constraints.  A statement that would break a constraint
fails and changes nothing, so a table that breaks one cannot be built.

Updates go through the rows one by one and check each new version against the
rows as they are at that moment.  This is what a database does with an index
whose check is not deferred: an update of several rows can fail although the
final contents would be fine.  A successful update is a map over the rows
(`Table.update?_rows`).

`Table.get?` looks a row up by its key.  What each statement does to the row
under a key is `get?_insert?`, `get?_update?` and `get?_delete`.
-/

namespace Relational

/-! ## Rows and tables -/

/-- The constraints on the rows of one table. -/
class Row (ρ : Type) where
  /-- Two rows that one table cannot hold together. -/
  Clash : ρ → ρ → Prop
  /-- A row that the table can hold. -/
  Valid : ρ → Prop
  clash_symm : ∀ {r r' : ρ}, Clash r r' → Clash r' r
  [decClash : DecidableRel Clash]
  [decValid : DecidablePred Valid]

attribute [reducible, instance] Row.decClash Row.decValid

/-- Rows with a primary key. -/
class Keyed (ρ : Type) (κ : outParam Type) [DecidableEq κ] extends Row ρ where
  /-- The primary key of a row. -/
  key : ρ → κ
  clash_of_key : ∀ {r r' : ρ}, key r = key r' → Clash r r'

/-- A table: rows that meet their constraints. -/
structure Table (ρ : Type) [Row ρ] where
  /-- The rows, in no particular order. -/
  rows : List ρ
  distinct : rows.Pairwise fun r r' => ¬ Row.Clash r r'
  valid : ∀ r ∈ rows, Row.Valid r

/-- The new version of a row under an update. -/
def amend {ρ : Type} (p : ρ → Bool) (f : ρ → ρ) (r : ρ) : ρ := if p r then f r else r

@[simp] theorem amend_of_true {ρ : Type} {p : ρ → Bool} {f : ρ → ρ} {r : ρ} (h : p r = true) :
    amend p f r = f r := if_pos h

@[simp] theorem amend_of_false {ρ : Type} {p : ρ → Bool} {f : ρ → ρ} {r : ρ}
    (h : p r = false) : amend p f r = r := by simp [amend, h]

namespace Table

variable {ρ : Type} [Row ρ]

/-- The table with no rows. -/
def empty : Table ρ := ⟨[], List.Pairwise.nil, by simp⟩

/-- Two rows of one table that clash are the same row. -/
theorem eq_of_clash (t : Table ρ) {r r' : ρ} (hr : r ∈ t.rows) (hr' : r' ∈ t.rows)
    (h : Row.Clash r r') : r = r' := by
  by_contra hne
  have : Std.Symm fun r r' : ρ => ¬ Row.Clash r r' := ⟨fun _ _ hn hc => hn (Row.clash_symm hc)⟩
  exact t.distinct.forall hr hr' hne h

/-! ## Insertion and deletion -/

/-- Insert a row, or fail when a constraint forbids it. -/
def insert? (t : Table ρ) (r : ρ) : Option (Table ρ) :=
  if h : Row.Valid r ∧ ∀ x ∈ t.rows, ¬ Row.Clash x r then
    some ⟨t.rows ++ [r],
      List.pairwise_append.mpr ⟨t.distinct, List.pairwise_singleton _ _, by
        intro x hx y hy
        rw [List.mem_singleton.mp hy]
        exact h.2 x hx⟩,
      by
        intro x hx
        rcases List.mem_append.mp hx with hx | hx
        · exact t.valid x hx
        · rw [List.mem_singleton.mp hx]
          exact h.1⟩
  else none

theorem insert?_eq_some {t t' : Table ρ} {r : ρ} (h : t.insert? r = some t') :
    t'.rows = t.rows ++ [r] ∧ Row.Valid r ∧ ∀ x ∈ t.rows, ¬ Row.Clash x r := by
  unfold insert? at h
  split at h
  next hc =>
    obtain rfl := Option.some.inj h
    exact ⟨rfl, hc⟩
  next => cases h

/-- An insertion gets through when the row is valid and clashes with no row. -/
theorem insert?_isSome_iff {t : Table ρ} {r : ρ} :
    (∃ t', t.insert? r = some t') ↔ Row.Valid r ∧ ∀ x ∈ t.rows, ¬ Row.Clash x r := by
  constructor
  · rintro ⟨t', h⟩
    exact (insert?_eq_some h).2
  · intro h
    exact ⟨_, dif_pos h⟩

/-- Delete the rows that satisfy `p`. -/
def delete (t : Table ρ) (p : ρ → Bool) : Table ρ :=
  ⟨t.rows.filter fun r => !p r, t.distinct.filter _, by
    intro r hr
    exact t.valid r (List.mem_of_mem_filter hr)⟩

@[simp] theorem delete_rows (t : Table ρ) (p : ρ → Bool) :
    (t.delete p).rows = t.rows.filter fun r => !p r := rfl

/-! ## Update -/

/-- Update the rows of `todo` that satisfy `p`, one by one.  `done` holds the
rows that were already visited, in their new versions. -/
def updateRows (p : ρ → Bool) (f : ρ → ρ) : List ρ → List ρ → Option (List ρ)
  | done, [] => some done
  | done, r :: todo =>
      if p r then
        if Row.Valid (f r) ∧ ∀ x ∈ done ++ todo, ¬ Row.Clash x (f r) then
          updateRows p f (done ++ [f r]) todo
        else none
      else updateRows p f (done ++ [r]) todo

theorem updateRows_eq {p : ρ → Bool} {f : ρ → ρ} : ∀ {todo done out : List ρ},
    updateRows p f done todo = some out → out = done ++ todo.map (amend p f)
  | [], done, out, h => by simpa [updateRows] using h.symm
  | r :: todo, done, out, h => by
      rw [updateRows] at h
      cases hp : p r with
      | true =>
          rw [hp, if_pos rfl] at h
          split at h
          · have ih := updateRows_eq h
            simpa [amend, hp] using ih
          · cases h
      | false =>
          rw [hp, if_neg (by simp)] at h
          have ih := updateRows_eq h
          simpa [amend, hp] using ih

/-- A row may be replaced by one that clashes with none of the others. -/
theorem distinct_replace {done todo : List ρ} {r r' : ρ}
    (hd : (done ++ r :: todo).Pairwise fun r r' => ¬ Row.Clash r r')
    (hr : ∀ x ∈ done ++ todo, ¬ Row.Clash x r') :
    (done ++ [r'] ++ todo).Pairwise fun r r' => ¬ Row.Clash r r' := by
  obtain ⟨hdone, hrest, hcross⟩ := List.pairwise_append.mp hd
  have htodo := (List.pairwise_cons.mp hrest).2
  rw [List.append_assoc]
  refine List.pairwise_append.mpr ⟨hdone, ?_, ?_⟩
  · refine List.pairwise_cons.mpr ⟨fun x hx hcl => ?_, htodo⟩
    exact hr x (List.mem_append_right _ hx) (Row.clash_symm hcl)
  · intro x hx y hy
    rcases List.mem_cons.mp hy with rfl | hy
    · exact hr x (List.mem_append_left _ hx)
    · exact hcross x hx y (List.mem_cons_of_mem _ hy)

/-- The constraints hold of a table whose rows are partly updated. -/
theorem updateRows_ok {p : ρ → Bool} {f : ρ → ρ} : ∀ {todo done out : List ρ},
    updateRows p f done todo = some out →
    ((done ++ todo).Pairwise fun r r' => ¬ Row.Clash r r') → (∀ r ∈ done ++ todo, Row.Valid r) →
    (out.Pairwise fun r r' => ¬ Row.Clash r r') ∧ ∀ r ∈ out, Row.Valid r
  | [], done, out, h, hd, hv => by
      obtain rfl : done = out := by simpa [updateRows] using h
      simpa using And.intro hd hv
  | r :: todo, done, out, h, hd, hv => by
      rw [updateRows] at h
      have hsplit : done ++ r :: todo = done ++ [r] ++ todo := by simp
      cases hp : p r with
      | true =>
          rw [hp, if_pos rfl] at h
          split at h
          next hc =>
            refine updateRows_ok h (distinct_replace hd hc.2) fun x hx => ?_
            simp only [List.mem_append, List.mem_singleton] at hx
            rcases hx with (hx | rfl) | hx
            · exact hv x (by simp [hx])
            · exact hc.1
            · exact hv x (by simp [hx])
          next => cases h
      | false =>
          rw [hp, if_neg (by simp)] at h
          exact updateRows_ok h (hsplit ▸ hd) (hsplit ▸ hv)

/-- Update the rows that satisfy `p`, or fail when a constraint forbids it. -/
def update? (t : Table ρ) (p : ρ → Bool) (f : ρ → ρ) : Option (Table ρ) :=
  match h : updateRows p f [] t.rows with
  | none => none
  | some rows =>
      have hok := updateRows_ok h (by simpa using t.distinct) (by simpa using t.valid)
      some ⟨rows, hok.1, hok.2⟩

/-- A successful update is a map over the rows. -/
theorem update?_rows {t t' : Table ρ} {p : ρ → Bool} {f : ρ → ρ}
    (h : t.update? p f = some t') : t'.rows = t.rows.map (amend p f) := by
  unfold update? at h
  split at h
  next => cases h
  next hu =>
    obtain rfl := Option.some.inj h
    simpa using updateRows_eq hu

/-- An update that hits no row succeeds and changes no row. -/
theorem updateRows_of_none {p : ρ → Bool} {f : ρ → ρ} : ∀ {todo done : List ρ},
    (∀ r ∈ todo, p r = false) → updateRows p f done todo = some (done ++ todo)
  | [], done, _ => by simp [updateRows]
  | r :: todo, done, h => by
      have hr := h r (List.mem_cons_self ..)
      have ih : updateRows p f (done ++ [r]) todo = some (done ++ [r] ++ todo) :=
        updateRows_of_none fun x hx => h x (List.mem_cons_of_mem _ hx)
      rw [updateRows, hr, if_neg (by simp), ih]
      simp

theorem update?_of_none {t : Table ρ} {p : ρ → Bool} {f : ρ → ρ}
    (h : ∀ r ∈ t.rows, p r = false) : t.update? p f = some t := by
  have hu : updateRows p f [] t.rows = some ([] ++ t.rows) := updateRows_of_none h
  unfold update?
  split
  next hn => rw [hu] at hn; cases hn
  next hs =>
    obtain rfl : t.rows = _ := Option.some.inj (hu.symm.trans hs)
    rfl

/-- An update gets through when each row that it hits, in its new version, is valid
and clashes neither with the new versions of the rows before it nor with the old
versions of those after it. -/
theorem updateRows_isSome_iff {p : ρ → Bool} {f : ρ → ρ} : ∀ {todo done : List ρ},
    (∃ out, updateRows p f done todo = some out) ↔
      ∀ before r after, todo = before ++ r :: after → p r = true →
        Row.Valid (f r) ∧ ∀ x ∈ done ++ before.map (amend p f) ++ after, ¬ Row.Clash x (f r)
  | [], done => by simp [updateRows]
  | r :: todo, done => by
      have hlater : ∀ r', (∀ before x after, todo = before ++ x :: after → p x = true →
          Row.Valid (f x) ∧ ∀ y ∈ done ++ [r'] ++ before.map (amend p f) ++ after,
            ¬ Row.Clash y (f x)) ↔ ∃ out, updateRows p f (done ++ [r']) todo = some out :=
        fun r' => updateRows_isSome_iff.symm
      rw [updateRows]
      constructor
      · rintro ⟨out, hout⟩ before x after hsplit hx
        have hrest : ∃ out, updateRows p f (done ++ [amend p f r]) todo = some out := by
          cases hp : p r with
          | true =>
              rw [hp, if_pos rfl] at hout
              split at hout
              · exact ⟨out, by simpa [amend, hp] using hout⟩
              · cases hout
          | false => exact ⟨out, by simpa [amend, hp] using hout⟩
        cases before with
        | nil =>
            obtain ⟨rfl, rfl⟩ := List.cons.inj hsplit
            rw [hx, if_pos rfl] at hout
            split at hout
            next hc => simpa using hc
            next => cases hout
        | cons y before =>
            obtain ⟨rfl, htodo⟩ := List.cons.inj hsplit
            simpa using (hlater _).mpr hrest before x after htodo hx
      · intro h
        have hrest : ∃ out, updateRows p f (done ++ [amend p f r]) todo = some out := by
          refine (hlater _).mp fun before x after htodo hx => ?_
          simpa using h (r :: before) x after (congrArg (List.cons r) htodo) hx
        cases hp : p r with
        | true =>
            have hr := h [] r todo rfl hp
            rw [if_pos rfl, if_pos (by simpa using hr)]
            simpa [amend, hp] using hrest
        | false =>
            rw [if_neg (by simp)]
            simpa [amend, hp] using hrest

theorem update?_isSome_iff {t : Table ρ} {p : ρ → Bool} {f : ρ → ρ} :
    (∃ t', t.update? p f = some t') ↔
      ∀ before r after, t.rows = before ++ r :: after → p r = true →
        Row.Valid (f r) ∧ ∀ x ∈ before.map (amend p f) ++ after, ¬ Row.Clash x (f r) := by
  have hrows := @updateRows_isSome_iff ρ _ p f t.rows []
  simp only [List.nil_append] at hrows
  rw [← hrows]
  unfold update?
  split
  next hn => simp [hn]
  next hu => simp [hu]

/-- An update gets through when the new version of each row that it hits is valid and
clashes with no row that the old version does not clash with. -/
theorem update?_of_mild {t : Table ρ} {p : ρ → Bool} {f : ρ → ρ}
    (hf : ∀ r ∈ t.rows, p r = true → Row.Valid (f r) ∧ ∀ x, Row.Clash x (f r) → Row.Clash x r) :
    ∃ t', t.update? p f = some t' := by
  refine update?_isSome_iff.mpr fun before r after hsplit hp => ?_
  have hmem : ∀ x ∈ before ++ r :: after, x ∈ t.rows := fun x hx => hsplit ▸ hx
  have hd := t.distinct
  rw [hsplit] at hd
  obtain ⟨-, hrest, hcross⟩ := List.pairwise_append.mp hd
  obtain ⟨hvalid, hmild⟩ := hf r (hmem r (by simp)) hp
  refine ⟨hvalid, fun x hx hcl => ?_⟩
  rcases List.mem_append.mp hx with hx | hx
  · obtain ⟨y, hy, rfl⟩ := List.mem_map.mp hx
    have hyr := hcross y hy r (List.mem_cons_self ..)
    have hnew := hmild _ hcl
    unfold amend at hnew
    split at hnew
    next hpy =>
      have hold := (hf y (hmem y (by simp [hy])) hpy).2 r (Row.clash_symm hnew)
      exact hyr (Row.clash_symm hold)
    next => exact hyr hnew
  · exact (List.pairwise_cons.mp hrest).1 x hx (Row.clash_symm (hmild x hcl))

/-! ## The row under a key -/

section Keys
variable {ρ κ : Type} [DecidableEq κ] [Keyed ρ κ]

/-- The row under a key. -/
def get? (t : Table ρ) (k : κ) : Option ρ := t.rows.find? fun r => Keyed.key r = k

theorem key_of_get? {t : Table ρ} {k : κ} {r : ρ} (h : t.get? k = some r) :
    Keyed.key r = k := by
  simpa using List.find?_some h

theorem mem_of_get? {t : Table ρ} {k : κ} {r : ρ} (h : t.get? k = some r) : r ∈ t.rows :=
  List.mem_of_find?_eq_some h

theorem get?_of_mem {t : Table ρ} {r : ρ} (h : r ∈ t.rows) :
    t.get? (Keyed.key r) = some r := by
  cases hf : t.get? (Keyed.key r) with
  | none =>
      have := List.find?_eq_none.mp hf r h
      simp at this
  | some r' =>
      have hk := key_of_get? hf
      rw [t.eq_of_clash (mem_of_get? hf) h (Keyed.clash_of_key hk)]

theorem get?_eq_some_iff {t : Table ρ} {k : κ} {r : ρ} :
    t.get? k = some r ↔ r ∈ t.rows ∧ Keyed.key r = k := by
  constructor
  · intro h
    exact ⟨mem_of_get? h, key_of_get? h⟩
  · rintro ⟨hr, rfl⟩
    exact get?_of_mem hr

theorem get?_insert? {t t' : Table ρ} {r : ρ} (h : t.insert? r = some t') (k : κ) :
    t'.get? k = if Keyed.key r = k then some r else t.get? k := by
  obtain ⟨hrows, -, hc⟩ := insert?_eq_some h
  unfold get?
  rw [hrows, List.find?_append]
  by_cases hk : Keyed.key r = k
  · have hn : t.rows.find? (fun x => decide (Keyed.key x = k)) = none := by
      refine List.find?_eq_none.mpr fun x hx hxk => hc x hx (Keyed.clash_of_key ?_)
      rw [of_decide_eq_true hxk, hk]
    simp [hn, hk]
  · simp [hk]

/-- The key of an inserted row was free. -/
theorem get?_key_of_insert? {t t' : Table ρ} {r : ρ} (h : t.insert? r = some t') :
    t.get? (Keyed.key r) = none := by
  obtain ⟨-, -, hc⟩ := insert?_eq_some h
  refine List.find?_eq_none.mpr fun x hx hxk => hc x hx (Keyed.clash_of_key ?_)
  exact of_decide_eq_true hxk

theorem get?_update? {t t' : Table ρ} {p : ρ → Bool} {f : ρ → ρ}
    (hf : ∀ r, Keyed.key (f r) = Keyed.key r) (h : t.update? p f = some t') (k : κ) :
    t'.get? k = (t.get? k).map (amend p f) := by
  have hkey : ∀ r, Keyed.key (amend p f r) = Keyed.key r := by
    intro r
    unfold amend
    split
    · exact hf r
    · rfl
  unfold get?
  rw [update?_rows h, List.find?_map]
  congr 2
  funext r
  simp [Function.comp, hkey]

/-- An update of the row under a key gets through when its new version is valid and
clashes with no other row. -/
theorem update?_key_isSome_iff {t : Table ρ} {p : ρ → Bool} {f : ρ → ρ} {k : κ} {r : ρ}
    (hr : t.get? k = some r) (hp : p r = true) (hone : ∀ x, p x = true → Keyed.key x = k) :
    (∃ t', t.update? p f = some t') ↔
      Row.Valid (f r) ∧ ∀ x ∈ t.rows, Keyed.key x ≠ k → ¬ Row.Clash x (f r) := by
  obtain ⟨hmem, hk⟩ := get?_eq_some_iff.mp hr
  have hother : ∀ {before after : List ρ}, t.rows = before ++ r :: after →
      (∀ x ∈ before, Keyed.key x ≠ k) ∧ ∀ x ∈ after, Keyed.key x ≠ k := by
    intro before after hsplit
    have hd := t.distinct
    rw [hsplit] at hd
    obtain ⟨-, hrest, hcross⟩ := List.pairwise_append.mp hd
    refine ⟨fun x hx hxk => ?_, fun x hx hxk => ?_⟩
    · exact hcross x hx r (List.mem_cons_self ..) (Keyed.clash_of_key (hxk.trans hk.symm))
    · exact (List.pairwise_cons.mp hrest).1 x hx (Keyed.clash_of_key (hk.trans hxk.symm))
  have hsame : ∀ {before : List ρ}, (∀ x ∈ before, Keyed.key x ≠ k) →
      before.map (amend p f) = before := by
    intro before hne
    refine (List.map_congr_left fun x hx => ?_).trans before.map_id
    exact amend_of_false (Bool.eq_false_iff.mpr fun hpx => hne x hx (hone x hpx))
  rw [update?_isSome_iff]
  constructor
  · intro h
    obtain ⟨before, after, hsplit⟩ := List.append_of_mem hmem
    obtain ⟨hvalid, hfits⟩ := h before r after hsplit hp
    refine ⟨hvalid, fun x hx hxk => hfits x ?_⟩
    rw [hsame (hother hsplit).1]
    rw [hsplit] at hx
    rcases List.mem_append.mp hx with hx | hx
    · exact List.mem_append_left _ hx
    · rcases List.mem_cons.mp hx with rfl | hx
      · exact absurd hk hxk
      · exact List.mem_append_right _ hx
  · rintro ⟨hvalid, hfits⟩ before x after hsplit hx
    have hxr : x = r := t.eq_of_clash (by rw [hsplit]; simp) hmem
      (Keyed.clash_of_key ((hone x hx).trans hk.symm))
    subst hxr
    obtain ⟨hbefore, hafter⟩ := hother hsplit
    refine ⟨hvalid, fun y hy => ?_⟩
    rw [hsame hbefore] at hy
    rcases List.mem_append.mp hy with hy | hy
    · exact hfits y (by rw [hsplit]; simp [hy]) (hbefore y hy)
    · exact hfits y (by rw [hsplit]; simp [hy]) (hafter y hy)

theorem get?_delete (t : Table ρ) (p : ρ → Bool) (k : κ) :
    (t.delete p).get? k = (t.get? k).filter fun r => !p r := by
  cases hg : t.get? k with
  | none =>
      refine List.find?_eq_none.mpr fun x hx => ?_
      exact List.find?_eq_none.mp hg x (List.mem_of_mem_filter hx)
  | some r =>
      obtain ⟨hr, hk⟩ := get?_eq_some_iff.mp hg
      cases hp : p r with
      | false =>
          rw [Option.filter_some, hp]
          exact get?_eq_some_iff.mpr ⟨List.mem_filter.mpr ⟨hr, by simp [hp]⟩, hk⟩
      | true =>
          rw [Option.filter_some, hp]
          refine List.find?_eq_none.mpr fun x hx hxk => ?_
          obtain ⟨hx, hpx⟩ := List.mem_filter.mp hx
          have hxr : x = r := t.eq_of_clash hx hr
            (Keyed.clash_of_key ((of_decide_eq_true hxk).trans hk.symm))
          rw [hxr, hp] at hpx
          cases hpx

end Keys

end Table

end Relational
