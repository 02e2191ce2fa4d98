import Kagzi.Logic.Keyset

/-!
# Pages of a table that changes

A walk over the pages of a table takes time, and the table changes meanwhile: each page is
read from another version of it (`drift`).  Rows come in between and go, and rows that stay
have other contents.

With cursors that come back as they were, a walk that ends still returns no key twice, and
every key that was in all the versions (`walked_drift`, `exists_mem_drift`).  As long as it
has not ended, all the pages it has read are full (`walked_of_drift_none`).
-/

namespace Keyset

section Drift
variable {ι ρ κ : Type} [LinearOrder κ]

/-- Follow the cursors while there is more.  Each page is read from a version of its own. -/
def drift (fetch : ι → Option κ → Page ρ κ) : List ι → Option κ → Option (List ρ)
  | [], _ => none
  | t :: ts, cursor =>
      if (fetch t cursor).hasMore then
        (drift fetch ts (fetch t cursor).next).map ((fetch t cursor).items ++ ·)
      else some (fetch t cursor).items

variable {key : ρ → κ} {size : Nat} {rows : ι → List ρ} {cursor : Option κ} {ts : List ι}
    {out : List ρ}

/-- The page of a version, with exact cursors. -/
abbrev exactPage (key : ρ → κ) (size : Nat) (rows : ι → List ρ) (t : ι) : Option κ → Page ρ κ :=
  page key id size (rows t)

/-- A page with more to come: it is full, its cursor is the key of its last row, and what is
left lies beyond it. -/
theorem exactPage_more {t : ι} (hsize : 0 < size) (hordered : Ordered key (rows t))
    (hmore : (exactPage key size rows t cursor).hasMore = true) :
    ∃ b, (exactPage key size rows t cursor).next = some (key b) ∧
      b ∈ (exactPage key size rows t cursor).items ∧
      (exactPage key size rows t cursor).items.length = size ∧
      (∀ x ∈ (exactPage key size rows t cursor).items, key x ≤ key b) ∧
      ∀ x ∈ rows t, beyond key cursor x = true →
        x ∈ (exactPage key size rows t cursor).items ∨ beyond key (some (key b)) x = true := by
  generalize hrest : (rows t).filter (beyond key cursor) = rest
  rw [exactPage, page_eq hrest] at hmore ⊢
  have hlen : size < rest.length := of_decide_eq_true hmore
  have hrestord : Ordered key rest := hrest ▸ hordered.filter _
  obtain ⟨b, hb⟩ : ∃ b, rest[size - 1]? = some b := ⟨_, List.getElem?_eq_getElem (by omega)⟩
  have hlast : (rest.take size).getLast? = some b := by
    rw [List.getLast?_take, if_neg (Nat.ne_of_gt hsize), hb]
    rfl
  have hsplit : rest.filter (beyond key (some (key b))) = rest.drop size := by
    rw [filter_beyond_getElem hrestord hb]
    congr 1
    omega
  refine ⟨b, by simp [hlast], List.mem_of_getLast? hlast, by simp; omega, fun x hx => ?_,
    fun x hx hbeyond => ?_⟩
  · by_contra hlt
    have hxin : x ∈ rest.filter (beyond key (some (key b))) :=
      List.mem_filter.mpr ⟨List.mem_of_mem_take hx, by simpa [beyond] using not_le.mp hlt⟩
    rw [hsplit] at hxin
    rw [← List.take_append_drop size rest] at hrestord
    exact lt_irrefl _ ((List.pairwise_append.mp hrestord).2.2 x hx x hxin)
  · have hxrest : x ∈ rest := hrest ▸ List.mem_filter.mpr ⟨hx, hbeyond⟩
    rw [← List.take_append_drop size rest] at hxrest
    refine (List.mem_append.mp hxrest).imp id fun hdrop => ?_
    rw [← hsplit] at hdrop
    exact (List.mem_filter.mp hdrop).2

/-- The rows of a page lie beyond its cursor, in order, and are rows of the version. -/
theorem exactPage_items {t : ι} (hordered : Ordered key (rows t)) :
    Ordered key (exactPage key size rows t cursor).items ∧
      ∀ x ∈ (exactPage key size rows t cursor).items, x ∈ rows t ∧ beyond key cursor x = true := by
  rw [exactPage, page_eq rfl]
  refine ⟨(hordered.filter _).sublist (List.take_sublist ..), fun x hx => ?_⟩
  exact List.mem_filter.mp (List.mem_of_mem_take hx)

/-- A page without more has all that lies beyond its cursor. -/
theorem mem_exactPage_last {t : ι} (hmore : (exactPage key size rows t cursor).hasMore = false)
    {x : ρ} (hx : x ∈ rows t) (hbeyond : beyond key cursor x = true) :
    x ∈ (exactPage key size rows t cursor).items := by
  rw [exactPage, page_eq rfl] at hmore ⊢
  have hlen := of_decide_eq_false hmore
  rw [List.take_of_length_le (Nat.not_lt.mp hlen)]
  exact List.mem_filter.mpr ⟨hx, hbeyond⟩

theorem beyond_trans {x : ρ} {b : κ} (hb : cursor.all (· < b) = true)
    (hx : beyond key (some b) x = true) :
    beyond key cursor x = true := by
  cases cursor with
  | none => rfl
  | some c =>
      simp only [beyond, Option.all_some, decide_eq_true_iff] at hb hx ⊢
      exact lt_trans hb hx

/-- Rows that lie beyond a cursor, in order, each of which was read from one of the versions. -/
def Walked (key : ρ → κ) (rows : ι → List ρ) (ts : List ι) (cursor : Option κ) (out : List ρ) :
    Prop :=
  Ordered key out ∧ ∀ x ∈ out, beyond key cursor x = true ∧ ∃ t ∈ ts, x ∈ rows t

theorem walked_page {t : ι} (hordered : Ordered key (rows t)) :
    Walked key rows (t :: ts) cursor (exactPage key size rows t cursor).items := by
  refine ⟨(exactPage_items hordered).1, fun x hx => ?_⟩
  obtain ⟨hmem, hbeyond⟩ := (exactPage_items hordered).2 x hx
  exact ⟨hbeyond, t, List.mem_cons_self .., hmem⟩

/-- A page with more to come, and what was read after it. -/
theorem Walked.cons {t : ι} (hsize : 0 < size) (hordered : Ordered key (rows t))
    (hmore : (exactPage key size rows t cursor).hasMore = true)
    (h : Walked key rows ts (exactPage key size rows t cursor).next out) :
    Walked key rows (t :: ts) cursor ((exactPage key size rows t cursor).items ++ out) := by
  have hpage : Walked key rows (t :: ts) cursor (exactPage key size rows t cursor).items :=
    walked_page hordered
  obtain ⟨hitems, hmem⟩ := hpage
  obtain ⟨b, hnext, hb, -, hle, -⟩ := exactPage_more hsize hordered hmore
  rw [hnext] at h
  obtain ⟨hout, hmem'⟩ := h
  have hbc : cursor.all (· < key b) = true := (hmem b hb).1
  refine ⟨List.pairwise_append.mpr ⟨hitems, hout, fun x hx y hy => ?_⟩, fun x hx => ?_⟩
  · have hby : key b < key y := by simpa [beyond] using (hmem' y hy).1
    exact lt_of_le_of_lt (hle x hx) hby
  · rcases List.mem_append.mp hx with hx | hx
    · exact hmem x hx
    · obtain ⟨hbx, u, hu, hxu⟩ := hmem' x hx
      exact ⟨beyond_trans hbc hbx, u, List.mem_cons_of_mem _ hu, hxu⟩

/-- What a walk returns. -/
theorem walked_drift (hsize : 0 < size) (hordered : ∀ t ∈ ts, Ordered key (rows t))
    (h : drift (exactPage key size rows) ts cursor = some out) : Walked key rows ts cursor out := by
  induction ts generalizing cursor out with
  | nil => cases h
  | cons t ts ih =>
      have ht := hordered t (List.mem_cons_self ..)
      rw [drift] at h
      split at h
      next hmore =>
        obtain ⟨out', hrest, rfl⟩ := Option.map_eq_some_iff.mp h
        exact (ih (fun u hu => hordered u (List.mem_cons_of_mem _ hu)) hrest).cons hsize ht hmore
      next =>
        obtain rfl := Option.some.inj h
        exact walked_page ht

/-- A key beyond the cursor that is in all the versions is returned. -/
theorem exists_mem_drift {k : κ} (hsize : 0 < size) (hordered : ∀ t ∈ ts, Ordered key (rows t))
    (h : drift (exactPage key size rows) ts cursor = some out) (hk : cursor.all (· < k) = true)
    (hall : ∀ t ∈ ts, ∃ x ∈ rows t, key x = k) : ∃ x ∈ out, key x = k := by
  induction ts generalizing cursor out with
  | nil => cases h
  | cons t ts ih =>
      have ht := hordered t (List.mem_cons_self ..)
      obtain ⟨x, hx, rfl⟩ := hall t (List.mem_cons_self ..)
      rw [drift] at h
      split at h
      next hmore =>
        obtain ⟨out', hrest, rfl⟩ := Option.map_eq_some_iff.mp h
        obtain ⟨b, hnext, -, -, -, hleft⟩ := exactPage_more hsize ht hmore
        rw [hnext] at hrest
        rcases hleft x hx hk with hin | hbeyond
        · exact ⟨x, List.mem_append_left _ hin, rfl⟩
        · obtain ⟨y, hy, hyk⟩ := ih (fun u hu => hordered u (List.mem_cons_of_mem _ hu)) hrest
            hbeyond fun u hu => hall u (List.mem_cons_of_mem _ hu)
          exact ⟨y, List.mem_append_right _ hy, hyk⟩
      next hlast =>
        obtain rfl := Option.some.inj h
        exact ⟨x, mem_exactPage_last (Bool.eq_false_iff.mpr hlast) hx hk, rfl⟩

/-- A walk that has not ended has read full pages only, with different keys. -/
theorem walked_of_drift_none (hsize : 0 < size) (hordered : ∀ t ∈ ts, Ordered key (rows t))
    (h : drift (exactPage key size rows) ts cursor = none) :
    ∃ out, Walked key rows ts cursor out ∧ out.length = ts.length * size := by
  induction ts generalizing cursor with
  | nil => exact ⟨[], ⟨List.Pairwise.nil, nofun⟩, by simp⟩
  | cons t ts ih =>
      have ht := hordered t (List.mem_cons_self ..)
      rw [drift] at h
      split at h
      next hmore =>
        obtain ⟨b, -, -, hlen, -⟩ := exactPage_more hsize ht hmore
        obtain ⟨out, hout, hlen'⟩ :=
          ih (fun u hu => hordered u (List.mem_cons_of_mem _ hu)) (Option.map_eq_none_iff.mp h)
        refine ⟨_, hout.cons hsize ht hmore, ?_⟩
        rw [List.length_append, hlen, hlen', List.length_cons, Nat.succ_mul, Nat.add_comm]
      next => cases h

/-! ## A client -/

variable {τ ε α : Type}

/-- Send the token of the answer again while there is more.  Each request meets a version of
its own. -/
def followOver (send : ι → τ → Except ε (List α × τ × Bool)) : List ι → τ → Option (List α)
  | [], _ => none
  | t :: ts, token =>
      match send t token with
      | .error _ => none
      | .ok (items, next, hasMore) =>
          if hasMore then (followOver send ts next).map (items ++ ·) else some items

omit [LinearOrder κ] in
/-- A client that follows the tokens walks over the rows. -/
theorem followOver_eq {send : ι → τ → Except ε (List α × τ × Bool)} (token : Option κ → τ)
    {fetch : ι → Option κ → Page ρ κ} {make : ρ → α}
    (hsend : ∀ t c, ∃ next,
      send t (token c) = .ok ((fetch t c).items.map make, next, (fetch t c).hasMore) ∧
      ((fetch t c).hasMore = true → next = token (fetch t c).next)) (ts : List ι) (c : Option κ) :
    followOver send ts (token c) = (drift fetch ts c).map (List.map make) := by
  induction ts generalizing c with
  | nil => rfl
  | cons t ts ih =>
      obtain ⟨next, hanswer, hnext⟩ := hsend t c
      rw [followOver, drift, hanswer]
      dsimp only
      split
      next hmore =>
        rw [hnext hmore, ih]
        cases drift fetch ts (fetch t c).next <;> simp
      next => rfl

end Drift

end Keyset
