import Mathlib.Order.Defs.LinearOrder
import Mathlib.Data.List.Pairwise
import Mathlib.Data.List.Sort

/-!
# Keyset pagination

A table is read page by page.  Its rows are in the order of their keys, a page is the
next `size` rows whose keys lie beyond a cursor, and the cursor of the next page is
made from the key of the last row.  Between the pages the cursor goes through a
representation that can lose precision: `cut` is what comes back of a key.

`walk` follows the cursors while there is more.  `exists_walk_iff` says when that ends
and returns every row exactly once: at each end of a page, with `b` its last row and
`r` the row after it, `cut (key b)` must lie between the two.  When it lies before `b`,
rows are repeated; when it does not lie before `r`, rows are skipped.

Nothing here knows what the rows are.
-/

namespace Keyset

variable {ρ κ : Type} [LinearOrder κ]

/-- The row lies beyond the cursor. -/
def beyond (key : ρ → κ) (cursor : Option κ) (r : ρ) : Bool := cursor.all fun c => c < key r

/-- A page, with the cursor of the next one. -/
structure Page (ρ κ : Type) where
  items : List ρ
  next : Option κ
  hasMore : Bool

/-- The rows beyond the cursor, up to one more than the page holds. -/
def page (key : ρ → κ) (cut : κ → κ) (size : Nat) (rows : List ρ) (cursor : Option κ) :
    Page ρ κ :=
  let found := (rows.filter (beyond key cursor)).take (size + 1)
  ⟨found.take size, (found.take size).getLast?.map fun r => cut (key r), size < found.length⟩

/-- Follow the cursors while there is more, for at most so many pages. -/
def walk (fetch : Option κ → Page ρ κ) : Nat → Option κ → Option (List ρ)
  | 0, _ => none
  | n + 1, cursor =>
      if (fetch cursor).hasMore then
        (walk fetch n (fetch cursor).next).map ((fetch cursor).items ++ ·)
      else some (fetch cursor).items

/-- `b` is the last row of a page, and `r` the row after it. -/
def Boundary (size : Nat) (rows : List ρ) (b r : ρ) : Prop :=
  ∃ k, rows[k * size + (size - 1)]? = some b ∧ rows[(k + 1) * size]? = some r

/-- The rows are in the order of their keys, which are different. -/
abbrev Ordered (key : ρ → κ) (rows : List ρ) : Prop := rows.Pairwise fun r r' => key r < key r'

section Pages
variable {key : ρ → κ} {cut : κ → κ} {size : Nat} {rows rest : List ρ} {cursor : Option κ}

/-- Without a cursor all rows are left. -/
@[simp] theorem filter_beyond_none : rows.filter (beyond key none) = rows :=
  List.filter_eq_self.mpr fun _ _ => rfl

/-- A page is the front of what lies beyond its cursor. -/
theorem page_eq (h : rows.filter (beyond key cursor) = rest) :
    page key cut size rows cursor = ⟨rest.take size,
      (rest.take size).getLast?.map fun r => cut (key r), size < rest.length⟩ := by
  simp only [page, h, List.take_take, List.length_take]
  rw [Nat.min_eq_left (Nat.le_succ size)]
  congr 2
  rw [eq_iff_iff]
  omega

/-- The last page. -/
theorem walk_last (h : rows.filter (beyond key cursor) = rest) (hlen : rest.length ≤ size)
    (n : Nat) : walk (page key cut size rows) (n + 1) cursor = some rest := by
  rw [walk, page_eq h]
  simp [Nat.not_lt.mpr hlen, List.take_of_length_le hlen]

/-- A page that is not the last. -/
theorem walk_more {b : ρ} (h : rows.filter (beyond key cursor) = rest) (hlen : size < rest.length)
    (hb : rest[size - 1]? = some b) (hsize : 0 < size) (n : Nat) :
    walk (page key cut size rows) (n + 1) cursor =
      (walk (page key cut size rows) n (some (cut (key b)))).map (rest.take size ++ ·) := by
  have hlast : (rest.take size).getLast? = some b := by
    rw [List.getLast?_take, if_neg (Nat.ne_of_gt hsize), hb]
    rfl
  rw [walk, page_eq h, hlast]
  simp [hlen]

/-- What a walk returns starts with the first row beyond the cursor. -/
theorem head?_walk (hsize : 0 < size) {n : Nat} {out : List ρ}
    (h : walk (page key cut size rows) n cursor = some out) :
    out.head? = (rows.filter (beyond key cursor)).head? := by
  cases n with
  | zero => cases h
  | succ n =>
      have hhead : ((rows.filter (beyond key cursor)).take size).head?
          = (rows.filter (beyond key cursor)).head? := by
        rw [List.head?_take, if_neg (Nat.ne_of_gt hsize)]
      rw [walk, page_eq rfl] at h
      dsimp only at h
      split at h
      next hmore =>
        obtain ⟨out', -, rfl⟩ := Option.map_eq_some_iff.mp h
        rw [List.head?_append, hhead]
        have hlen := of_decide_eq_true hmore
        cases hfilter : rows.filter (beyond key cursor) with
        | nil => simp [hfilter] at hlen
        | cons r rest => rfl
      next => rw [← Option.some.inj h, hhead]

/-- The ends of the pages of what is left. -/
theorem boundary_iff {b r : ρ} :
    Boundary size rest b r ↔ (rest[size - 1]? = some b ∧ rest[size]? = some r) ∨
      Boundary size (rest.drop size) b r := by
  constructor
  · rintro ⟨k, hb, hr⟩
    cases k with
    | zero => exact .inl ⟨by simpa using hb, by simpa using hr⟩
    | succ k =>
        refine .inr ⟨k, ?_, ?_⟩
        · rw [List.getElem?_drop, ← hb, Nat.succ_mul k]
          congr 1
          omega
        · rw [List.getElem?_drop, ← hr, Nat.succ_mul (k + 1)]
          congr 1
          omega
  · rintro (⟨hb, hr⟩ | ⟨k, hb, hr⟩)
    · exact ⟨0, by simpa using hb, by simpa using hr⟩
    · rw [List.getElem?_drop] at hb hr
      refine ⟨k + 1, ?_, ?_⟩
      · rw [← hb, Nat.succ_mul k]
        congr 1
        omega
      · rw [← hr, Nat.succ_mul (k + 1)]
        congr 1
        omega

/-- A page that is not the last leaves rows over. -/
theorem Boundary.lt_length {b r : ρ} (h : Boundary size rows b r) : size < rows.length := by
  obtain ⟨k, -, hr⟩ := h
  have hlt := (List.getElem?_eq_some_iff.mp hr).1
  have hle : size ≤ (k + 1) * size := Nat.le_mul_of_pos_left size (Nat.succ_pos k)
  omega

/-- The row after a page comes after the last row of the page. -/
theorem Boundary.lt {b r : ρ} (h : Boundary size rows b r) (hordered : Ordered key rows)
    (hsize : 0 < size) : key b < key r := by
  obtain ⟨k, hb, hr⟩ := h
  obtain ⟨hbl, rfl⟩ := List.getElem?_eq_some_iff.mp hb
  obtain ⟨hrl, rfl⟩ := List.getElem?_eq_some_iff.mp hr
  refine List.pairwise_iff_getElem.mp hordered _ _ hbl hrl ?_
  rw [Nat.succ_mul]
  omega

theorem Boundary.mem {b r : ρ} (h : Boundary size rows b r) : b ∈ rows ∧ r ∈ rows := by
  obtain ⟨k, hb, hr⟩ := h
  exact ⟨List.mem_of_getElem? hb, List.mem_of_getElem? hr⟩

/-- What holds between neighbours holds between all. -/
theorem lt_of_boundary_one (hordered : Ordered key rows)
    (h : ∀ b r, Boundary 1 rows b r → cut (key b) < key r) {b r : ρ} (hb : b ∈ rows) (hr : r ∈ rows)
    (hlt : key b < key r) : cut (key b) < key r := by
  obtain ⟨i, hi, rfl⟩ := List.mem_iff_getElem.mp hb
  obtain ⟨j, hj, rfl⟩ := List.mem_iff_getElem.mp hr
  have hij : i < j := by
    rcases Nat.lt_trichotomy i j with hij | rfl | hji
    · exact hij
    · exact absurd hlt (lt_irrefl _)
    · exact absurd hlt (lt_asymm (List.pairwise_iff_getElem.mp hordered j i hj hi hji))
  have hnext : cut (key rows[i]) < key rows[i + 1] :=
    h _ _ ⟨i, by simp [List.getElem?_eq_getElem hi],
      by rw [Nat.mul_one]; exact List.getElem?_eq_getElem (by omega)⟩
  rcases Nat.eq_or_lt_of_le (show i + 1 ≤ j by omega) with rfl | hlater
  · exact hnext
  · exact lt_trans hnext (List.pairwise_iff_getElem.mp hordered (i + 1) j (by omega) hj hlater)

/-- Beyond a cursor between two neighbours lies what follows the first. -/
theorem filter_beyond {front post : List ρ} {b r : ρ} {c : κ}
    (h : Ordered key (front ++ b :: r :: post)) (hb : key b ≤ c) (hr : c < key r) :
    (front ++ b :: r :: post).filter (beyond key (some c)) = r :: post := by
  obtain ⟨-, htail, hfront⟩ := List.pairwise_append.mp h
  obtain ⟨-, htail⟩ := List.pairwise_cons.mp htail
  obtain ⟨hpost, -⟩ := List.pairwise_cons.mp htail
  have hnone : front.filter (beyond key (some c)) = [] := by
    refine List.filter_eq_nil_iff.mpr fun x hx => ?_
    have hlt := lt_of_lt_of_le (hfront x hx b (List.mem_cons_self ..)) hb
    simpa [beyond] using le_of_lt hlt
  have hall : post.filter (beyond key (some c)) = post := by
    refine List.filter_eq_self.mpr fun x hx => ?_
    simpa [beyond] using lt_trans hr (hpost x hx)
  rw [List.filter_append, hnone, List.nil_append, List.filter_cons_of_neg (by simpa [beyond]),
    List.filter_cons_of_pos (by simpa [beyond]), hall]

/-- If the first row beyond a cursor is the second of two neighbours, the cursor is
between them. -/
theorem between_of_head? {front post : List ρ} {b r : ρ} {c : κ}
    (h : Ordered key (front ++ b :: r :: post))
    (hhead : ((front ++ b :: r :: post).filter (beyond key (some c))).head? = some r) :
    key b ≤ c ∧ c < key r := by
  obtain ⟨-, htail, -⟩ := List.pairwise_append.mp h
  have hbr : key b < key r := (List.pairwise_cons.mp htail).1 r (List.mem_cons_self ..)
  have hfiltered : Ordered key ((front ++ b :: r :: post).filter (beyond key (some c))) :=
    h.filter _
  have hmem : key b ≤ c ∨ b ∈ (front ++ b :: r :: post).filter (beyond key (some c)) := by
    rcases le_or_gt (key b) c with hle | hlt
    · exact .inl hle
    · exact .inr (List.mem_filter.mpr ⟨by simp, by simpa [beyond] using hlt⟩)
  cases hf : (front ++ b :: r :: post).filter (beyond key (some c)) with
  | nil => simp [hf] at hhead
  | cons x rest =>
      rw [hf] at hhead hfiltered hmem
      obtain rfl : x = r := by simpa using hhead
      have hr : c < key x := by
        have hx : x ∈ (front ++ b :: x :: post).filter (beyond key (some c)) := by simp [hf]
        simpa [beyond] using (List.mem_filter.mp hx).2
      refine ⟨hmem.resolve_right fun hb => ?_, hr⟩
      rcases List.mem_cons.mp hb with rfl | hb
      · exact lt_irrefl _ hbr
      · exact lt_asymm hbr ((List.pairwise_cons.mp hfiltered).1 b hb)

/-- The walk over what lies beyond a cursor. -/
theorem exists_walk_rest_iff (hordered : Ordered key rows) (hsize : 0 < size) (front : List ρ)
    (hrows : rows = front ++ rest) (hrest : rows.filter (beyond key cursor) = rest) :
    (∃ n, walk (page key cut size rows) n cursor = some rest) ↔
      ∀ b r, Boundary size rest b r → key b ≤ cut (key b) ∧ cut (key b) < key r := by
  induction hlen : rest.length using Nat.strongRecOn generalizing front rest cursor with
  | _ len ih =>
  subst hlen
  rcases Nat.lt_or_ge size rest.length with hmore | hlast
  case inr =>
    refine ⟨fun _ b r hboundary => ?_, fun _ => ⟨1, walk_last hrest hlast 0⟩⟩
    exact absurd hboundary.lt_length (Nat.not_lt.mpr hlast)
  case inl =>
    -- the last row of the page and its neighbour
    obtain ⟨b, hb⟩ : ∃ b, rest[size - 1]? = some b := ⟨_, List.getElem?_eq_getElem (by omega)⟩
    obtain ⟨r, hr⟩ : ∃ r, rest[size]? = some r := ⟨_, List.getElem?_eq_getElem hmore⟩
    have hdrop : rest.drop size = r :: rest.drop (size + 1) := by
      obtain ⟨hlt, rfl⟩ := List.getElem?_eq_some_iff.mp hr
      exact (List.getElem_cons_drop hlt).symm
    have htake : rest.take size = rest.take (size - 1) ++ [b] := by
      obtain ⟨hlt, rfl⟩ := List.getElem?_eq_some_iff.mp hb
      rw [List.take_append_getElem hlt]
      congr 1
      omega
    have hsplit : rows = (front ++ rest.take (size - 1)) ++ b :: r :: rest.drop (size + 1) := by
      rw [hrows, List.append_assoc, ← hdrop]
      congr 1
      rw [← List.singleton_append, ← List.append_assoc, ← htake, List.take_append_drop]
    have hfirst : ∀ b' r', rest[size - 1]? = some b' ∧ rest[size]? = some r' → b' = b ∧ r' = r := by
      rintro b' r' ⟨hb', hr'⟩
      exact ⟨Option.some.inj (hb'.symm.trans hb), Option.some.inj (hr'.symm.trans hr)⟩
    have hnext : key b ≤ cut (key b) → cut (key b) < key r →
        ((∃ n, walk (page key cut size rows) n (some (cut (key b))) = some (rest.drop size)) ↔
          ∀ b r, Boundary size (rest.drop size) b r → key b ≤ cut (key b) ∧ cut (key b) < key r) := by
      intro hle hlt
      refine ih _ (by rw [List.length_drop]; omega) (front ++ rest.take size) ?_ ?_ rfl
      · rw [hrows, List.append_assoc, List.take_append_drop]
      · rw [hdrop]
        nth_rewrite 1 [hsplit]
        exact filter_beyond (hsplit ▸ hordered) hle hlt
    constructor
    · rintro ⟨n, hn⟩
      cases n with
      | zero => cases hn
      | succ n =>
          rw [walk_more hrest hmore hb hsize] at hn
          obtain ⟨out, hout, happ⟩ := Option.map_eq_some_iff.mp hn
          obtain rfl : out = rest.drop size := by
            nth_rewrite 2 [← List.take_append_drop size rest] at happ
            exact List.append_cancel_left happ
          have hhead := head?_walk hsize hout
          rw [hdrop, hsplit] at hhead
          obtain ⟨hle, hlt⟩ := between_of_head? (hsplit ▸ hordered) hhead.symm
          intro b' r' hboundary
          rcases boundary_iff.mp hboundary with hfirst' | hlater
          · obtain ⟨rfl, rfl⟩ := hfirst b' r' hfirst'
            exact ⟨hle, hlt⟩
          · exact (hnext hle hlt).mp ⟨n, hout⟩ b' r' hlater
    · intro hgood
      obtain ⟨hle, hlt⟩ := hgood b r (boundary_iff.mpr (.inl ⟨hb, hr⟩))
      obtain ⟨n, hn⟩ := (hnext hle hlt).mpr fun b' r' h =>
        hgood b' r' (boundary_iff.mpr (.inr h))
      refine ⟨n + 1, ?_⟩
      rw [walk_more hrest hmore hb hsize, hn, Option.map_some, List.take_append_drop]

/-- Following the cursors ends and returns each row once, in order, exactly if at each
end of a page the cursor lies between the last row of the page and the row after
it. -/
theorem exists_walk_iff (hordered : Ordered key rows) (hsize : 0 < size) :
    (∃ n, walk (page key cut size rows) n none = some rows) ↔
      ∀ b r, Boundary size rows b r → key b ≤ cut (key b) ∧ cut (key b) < key r :=
  exists_walk_rest_iff hordered hsize [] rfl filter_beyond_none

/-- Cursors that lie at or before the last row of their page skip no row, so a walk
that returns as many rows as there are returns them once. -/
theorem length_walk (hordered : Ordered key rows) (hsize : 0 < size)
    (hcut : ∀ r ∈ rows, cut (key r) ≤ key r) {n : Nat} {out : List ρ}
    (h : walk (page key cut size rows) n cursor = some out) :
    (rows.filter (beyond key cursor)).length ≤ out.length ∧
      (out.length = (rows.filter (beyond key cursor)).length →
        out = rows.filter (beyond key cursor)) := by
  induction n generalizing cursor out with
  | zero => cases h
  | succ n ih =>
  generalize hrest : rows.filter (beyond key cursor) = rest
  rcases Nat.lt_or_ge size rest.length with hmore | hlast
  case inr =>
    rw [walk_last hrest hlast] at h
    obtain rfl := Option.some.inj h
    exact ⟨le_refl _, fun _ => rfl⟩
  case inl =>
    obtain ⟨b, hb⟩ : ∃ b, rest[size - 1]? = some b := ⟨_, List.getElem?_eq_getElem (by omega)⟩
    rw [walk_more hrest hmore hb hsize] at h
    obtain ⟨out', hout, rfl⟩ := Option.map_eq_some_iff.mp h
    have hrestOrdered : Ordered key rest := hrest ▸ hordered.filter _
    have hbRows : b ∈ rows := List.mem_of_mem_filter (hrest ▸ List.mem_of_getElem? hb)
    -- what follows the page lies beyond the next cursor
    have hsub : (rest.drop size).Sublist (rows.filter (beyond key (some (cut (key b))))) := by
      have hbeyond : (rest.drop size).filter (beyond key (some (cut (key b)))) = rest.drop size := by
        refine List.filter_eq_self.mpr fun x hx => ?_
        obtain ⟨k, hk⟩ := List.mem_iff_getElem?.mp hx
        rw [List.getElem?_drop] at hk
        obtain ⟨hbl, rfl⟩ := List.getElem?_eq_some_iff.mp hb
        obtain ⟨hkl, rfl⟩ := List.getElem?_eq_some_iff.mp hk
        have hlt := List.pairwise_iff_getElem.mp hrestOrdered (size - 1) (size + k) hbl hkl (by omega)
        simpa [beyond] using lt_of_le_of_lt (hcut _ hbRows) hlt
      rw [← hbeyond]
      refine List.Sublist.filter _ ((List.drop_sublist _ _).trans ?_)
      rw [← hrest]
      exact List.filter_sublist
    obtain ⟨hle, heq⟩ := ih hout
    have hlen := hsub.length_le
    rw [List.length_drop] at hlen
    rw [List.length_append, List.length_take]
    refine ⟨by omega, fun hsame => ?_⟩
    have hdrop : rest.drop size = rows.filter (beyond key (some (cut (key b)))) :=
      hsub.eq_of_length (by rw [List.length_drop]; omega)
    rw [heq (by omega), ← hdrop, List.take_append_drop]

theorem mem_of_page {x : ρ} (hx : x ∈ (page key cut size rows cursor).items) : x ∈ rows :=
  List.mem_of_mem_filter (List.mem_of_mem_take (List.mem_of_mem_take hx))

theorem mem_of_walk {n : Nat} {out : List ρ}
    (h : walk (page key cut size rows) n cursor = some out) {x : ρ} (hx : x ∈ out) : x ∈ rows := by
  induction n generalizing cursor out with
  | zero => cases h
  | succ n ih =>
      rw [walk] at h
      split at h
      next =>
        obtain ⟨rest, hrest, rfl⟩ := Option.map_eq_some_iff.mp h
        rcases List.mem_append.mp hx with hx | hx
        · exact mem_of_page hx
        · exact ih hrest hx
      next => exact mem_of_page (Option.some.inj h ▸ hx)

/-- Cursors that lie at or after the last row of their page lead to rows beyond them. -/
theorem beyond_of_walk (hsize : 0 < size) (hcut : ∀ r ∈ rows, key r ≤ cut (key r)) {n : Nat}
    {out : List ρ} (h : walk (page key cut size rows) n cursor = some out) {x : ρ} (hx : x ∈ out) :
    beyond key cursor x = true := by
  induction n generalizing cursor out with
  | zero => cases h
  | succ n ih =>
  generalize hrest : rows.filter (beyond key cursor) = rest
  have hbeyond : ∀ y ∈ rest, beyond key cursor y = true := fun y hy =>
    (List.mem_filter.mp (hrest ▸ hy)).2
  rcases Nat.lt_or_ge size rest.length with hmore | hlast
  case inr =>
    rw [walk_last hrest hlast] at h
    exact hbeyond x (Option.some.inj h ▸ hx)
  case inl =>
    obtain ⟨b, hb⟩ : ∃ b, rest[size - 1]? = some b := ⟨_, List.getElem?_eq_getElem (by omega)⟩
    have hbRest : b ∈ rest := List.mem_of_getElem? hb
    rw [walk_more hrest hmore hb hsize] at h
    obtain ⟨out', hout, rfl⟩ := Option.map_eq_some_iff.mp h
    rcases List.mem_append.mp hx with hx | hx
    · exact hbeyond x (List.mem_of_mem_take hx)
    · have hlt : cut (key b) < key x := by simpa [beyond] using ih hout hx
      have hle := hcut b (List.mem_of_mem_filter (hrest ▸ hbRest))
      cases cursor with
      | none => rfl
      | some c =>
          have hcb : c < key b := by simpa [beyond] using hbeyond b hbRest
          simpa [beyond] using lt_trans (lt_of_lt_of_le hcb hle) hlt

/-- If a walk in pages of one row gets each row that a page of two would have, it leaves out
none.  `G` are the cursors that come up. -/
theorem walk_ones {G : Option κ → Prop} {S : ρ → Prop} (hordered : Ordered key rows)
    (hcut : ∀ r ∈ rows, key r ≤ cut (key r)) (hG : ∀ r ∈ rows, G (some (cut (key r))))
    (hS : ∀ c, G c → ∀ x ∈ (page key cut 2 rows c).items, S x) {n : Nat} {out front : List ρ}
    (hrows : rows = front ++ rest) (hrest : rows.filter (beyond key cursor) = rest)
    (hcursor : G cursor) (h : walk (page key cut 1 rows) n cursor = some out)
    (hall : ∀ x ∈ rest, S x → x ∈ out) : out = rest ∧ ∀ x ∈ rest, S x := by
  have hpage : ∀ x ∈ rest.take 2, S x := by
    have := hS cursor hcursor
    rwa [page_eq hrest] at this
  induction n generalizing cursor rest front out with
  | zero => cases h
  | succ n ih =>
  match rest, hrows, hrest with
  | [], _, hrest =>
      rw [walk_last hrest (Nat.zero_le 1)] at h
      exact ⟨(Option.some.inj h).symm, fun _ hx => by cases hx⟩
  | [b], _, hrest =>
      rw [walk_last hrest (le_refl 1)] at h
      exact ⟨(Option.some.inj h).symm, hpage⟩
  | b :: r :: post, hrows, hrest =>
      obtain ⟨hb, hr⟩ : S b ∧ S r := ⟨hpage b (by simp), hpage r (by simp)⟩
      have hbRows : b ∈ rows := by rw [hrows]; simp
      rw [walk_more hrest (by simp) rfl (Nat.succ_pos 0)] at h
      obtain ⟨out', hout, rfl⟩ := Option.map_eq_some_iff.mp h
      have hlt : key b < key r := by
        have hrestOrdered : Ordered key (b :: r :: post) := hrest ▸ hordered.filter _
        exact (List.pairwise_cons.mp hrestOrdered).1 r (List.mem_cons_self ..)
      -- the second row is got later, so it lies beyond the next cursor
      have hlater : r ∈ out' := by
        have hmem := hall r (by simp) hr
        have hne : r ≠ b := fun heq => lt_irrefl _ (heq ▸ hlt)
        simpa [hne] using hmem
      have hbetween : cut (key b) < key r := by
        simpa [beyond] using beyond_of_walk (Nat.succ_pos 0) hcut hout hlater
      have hnext : rows.filter (beyond key (some (cut (key b)))) = r :: post := by
        nth_rewrite 1 [hrows]
        exact filter_beyond (hrows ▸ hordered) (hcut b hbRows) hbetween
      have hrows' : rows = (front ++ [b]) ++ r :: post := by simpa using hrows
      have hpage' : ∀ x ∈ (r :: post).take 2, S x := by
        have := hS _ (hG b hbRows)
        rwa [page_eq hnext] at this
      have hall' : ∀ x ∈ r :: post, S x → x ∈ out' := by
        intro x hx hSx
        have hne : x ≠ b := by
          rintro rfl
          have hmem : x ∈ rows.filter (beyond key (some (cut (key x)))) := hnext ▸ hx
          have hself : cut (key x) < key x := by simpa [beyond] using (List.mem_filter.mp hmem).2
          exact absurd hself (not_lt.mpr (hcut x hbRows))
        have hmem := hall x (List.mem_cons_of_mem _ hx) hSx
        simpa [hne] using hmem
      obtain ⟨hout', hrest'⟩ := ih hrows' hnext (hG b hbRows) hout hall' hpage'
      refine ⟨by rw [hout']; rfl, fun x hx => ?_⟩
      rcases List.mem_cons.mp hx with rfl | hx
      · exact hb
      · exact hrest' x hx

end Pages

/-! ## Sorting by key -/

section Sorting
variable {key : ρ → κ} {rows rows' : List ρ}

/-- The rows in the order of their keys. -/
def sorted (key : ρ → κ) (rows : List ρ) : List ρ := rows.insertionSort fun a b => key a ≤ key b

@[simp] theorem mem_sorted {r : ρ} : r ∈ sorted key rows ↔ r ∈ rows := List.mem_insertionSort _

theorem ordered_sorted (h : rows.Pairwise fun r r' => key r ≠ key r') :
    Ordered key (sorted key rows) := by
  have : Std.Total fun a b : ρ => key a ≤ key b := ⟨fun a b => le_total (key a) (key b)⟩
  have : IsTrans ρ fun a b => key a ≤ key b := ⟨fun _ _ _ => le_trans⟩
  have hle : (sorted key rows).Pairwise fun a b => key a ≤ key b := List.pairwise_insertionSort _ _
  have hne : (sorted key rows).Pairwise fun a b => key a ≠ key b :=
    (List.perm_insertionSort _ rows).symm.pairwise h fun hn => Ne.symm hn
  exact hle.imp₂ (fun _ _ h h' => lt_of_le_of_ne h h') hne

/-- Ordered rows are determined by which rows they are. -/
theorem Ordered.eq_of_mem_iff (h : Ordered key rows) (h' : Ordered key rows')
    (hmem : ∀ r, r ∈ rows ↔ r ∈ rows') : rows = rows' := by
  have : Std.Irrefl fun a b : ρ => key a < key b := ⟨fun a => lt_irrefl (key a)⟩
  have : Std.Antisymm fun a b : ρ => key a < key b := ⟨fun _ _ h h' => absurd h (lt_asymm h')⟩
  exact List.Pairwise.eq_of_mem_iff h h' hmem

/-- Of ordered rows, two with the same key are the same. -/
theorem Ordered.eq_of_key (h : Ordered key rows) {r r' : ρ} (hr : r ∈ rows) (hr' : r' ∈ rows)
    (heq : key r = key r') : r = r' := by
  have hirrefl : Std.Symm fun a b : ρ => key a ≠ key b := ⟨fun _ _ hn => Ne.symm hn⟩
  by_contra hne
  exact (h.imp fun hlt => ne_of_lt hlt).forall hr hr' hne heq

theorem sorted_filter (h : rows.Pairwise fun r r' => key r ≠ key r') (p : ρ → Bool) :
    sorted key (rows.filter p) = (sorted key rows).filter p :=
  (ordered_sorted (h.filter p)).eq_of_mem_iff ((ordered_sorted h).filter p) fun r => by
    simp [List.mem_filter]

end Sorting

/-! ## A client

The client knows cursors as tokens, and rows as what the server makes of them. -/

section Client
variable {τ ε α : Type}

/-- Send the token of the answer again while there is more. -/
def follow (send : τ → Except ε (List α × τ × Bool)) : Nat → τ → Option (List α)
  | 0, _ => none
  | n + 1, token =>
      match send token with
      | .error _ => none
      | .ok (items, next, hasMore) =>
          if hasMore then (follow send n next).map (items ++ ·) else some items

theorem mapM_append_toOption (make : ρ → Except ε α) (xs ys : List ρ) :
    ((xs ++ ys).mapM make).toOption =
      (xs.mapM make).toOption.bind fun as => (ys.mapM make).toOption.map (as ++ ·) := by
  rw [List.mapM_append]
  cases xs.mapM make with
  | error x => rfl
  | ok as => cases ys.mapM make <;> rfl

omit [LinearOrder κ] in
/-- A client that follows the tokens walks over the rows. -/
theorem follow_eq {send : τ → Except ε (List α × τ × Bool)} (token : Option κ → τ)
    (fetch : Option κ → Page ρ κ) (G : Option κ → Prop) {make : ρ → Except ε α}
    (hsend : ∀ c, G c → ∃ next, send (token c) =
        ((fetch c).items.mapM make).map (fun items => (items, next, (fetch c).hasMore)) ∧
      ((fetch c).hasMore = true → next = token (fetch c).next ∧ G (fetch c).next))
    (n : Nat) {c : Option κ} (hc : G c) :
    follow send n (token c) = (walk fetch n c).bind fun rows => (rows.mapM make).toOption := by
  induction n generalizing c with
  | zero => rfl
  | succ n ih =>
      obtain ⟨next, hanswer, hnext⟩ := hsend c hc
      rw [follow, hanswer, walk]
      cases hmore : (fetch c).hasMore with
      | false => cases hitems : (fetch c).items.mapM make <;> simp [hitems, Except.map, Except.toOption]
      | true =>
          obtain ⟨rfl, hG⟩ := hnext hmore
          have hrest : ∀ rows, (((fetch c).items ++ rows).mapM make).toOption = _ :=
            mapM_append_toOption make (fetch c).items
          rw [if_pos rfl, Option.bind_map]
          simp only [Function.comp_def, hrest]
          cases (fetch c).items.mapM make with
          | error x => simp [Except.map, Except.toOption]
          | ok items =>
              show (if true = true then (follow send n (token (fetch c).next)).map (items ++ ·)
                else some items) = _
              rw [if_pos rfl, ih hG]
              cases walk fetch n (fetch c).next <;> rfl

omit [LinearOrder κ] in
/-- A client that knows the tokens under other names. -/
theorem follow_rename {τ' ε' : Type} {send : τ → Except ε (List α × τ × Bool)}
    {send' : τ' → Except ε' (List α × τ' × Bool)} (g : τ → τ')
    (hsend : ∀ token, ∃ items next more, send token = .ok (items, next, more) ∧
      send' (g token) = .ok (items, g next, more)) (n : Nat) (token : τ) :
    follow send' n (g token) = follow send n token := by
  induction n generalizing token with
  | zero => rfl
  | succ n ih =>
      obtain ⟨items, next, more, hs, hs'⟩ := hsend token
      rw [follow, follow, hs, hs']
      dsimp only
      rw [ih]

/-- Lists with the same images under a function that tells their elements apart. -/
theorem eq_of_map_eq {β : Type} {text : ρ → β} : ∀ {xs ys : List ρ},
    (∀ x ∈ xs, ∀ y ∈ ys, text x = text y → x = y) → xs.map text = ys.map text → xs = ys
  | [], [], _, _ => rfl
  | [], _ :: _, _, h => by cases h
  | _ :: _, [], _, h => by cases h
  | x :: xs, y :: ys, hinj, h => by
      obtain ⟨hxy, hrest⟩ := List.cons.inj h
      rw [hinj x (List.mem_cons_self ..) y (List.mem_cons_self ..) hxy,
        eq_of_map_eq (fun a ha b hb => hinj a (List.mem_cons_of_mem _ ha) b
          (List.mem_cons_of_mem _ hb)) hrest]

theorem mapM_map_eq {β : Type} {make : ρ → Except ε α} {text : α → β} {text' : ρ → β} :
    ∀ {xs : List ρ} {as : List α}, (∀ x ∈ xs, ∀ a, make x = .ok a → text a = text' x) →
      (xs.mapM make).toOption = some as →
        as.map text = xs.map text' ∧ ∀ x ∈ xs, ∃ a, make x = .ok a
  | [], as, _, h => by
      obtain rfl : [] = as := Option.some.inj h
      exact ⟨rfl, fun _ hx => by cases hx⟩
  | x :: xs, as, htext, h => by
      rw [List.mapM_cons] at h
      cases hx : make x with
      | error e =>
          rw [hx] at h
          cases h
      | ok a =>
          cases hxs : xs.mapM make with
          | error e =>
              rw [hx, hxs] at h
              cases h
          | ok rest =>
              rw [hx, hxs] at h
              obtain rfl : a :: rest = as := Option.some.inj h
              obtain ⟨hrest, hall⟩ := mapM_map_eq
                (fun y hy => htext y (List.mem_cons_of_mem _ hy)) (by rw [hxs]; rfl)
              refine ⟨?_, fun y hy => ?_⟩
              · rw [List.map_cons, List.map_cons, hrest, htext x (List.mem_cons_self ..) a hx]
              · rcases List.mem_cons.mp hy with rfl | hy
                · exact ⟨a, hx⟩
                · exact hall y hy

omit [LinearOrder κ] in
/-- What can be made of each row can be made of all. -/
theorem exists_mapM {make : ρ → Except ε α} : ∀ {xs : List ρ},
    (∀ x ∈ xs, ∃ a, make x = .ok a) → ∃ as, xs.mapM make = .ok as
  | [], _ => ⟨[], rfl⟩
  | x :: xs, h => by
      obtain ⟨a, ha⟩ := h x (List.mem_cons_self ..)
      obtain ⟨as, has⟩ := exists_mapM fun y hy => h y (List.mem_cons_of_mem _ hy)
      refine ⟨a :: as, ?_⟩
      rw [List.mapM_cons, ha, has]
      rfl

omit [LinearOrder κ] in
/-- Each row is made into something, and nothing else is made. -/
theorem mem_mapM {make : ρ → Except ε α} : ∀ {xs : List ρ} {as : List α}, xs.mapM make = .ok as →
    (∀ x ∈ xs, ∃ a ∈ as, make x = .ok a) ∧ ∀ a ∈ as, ∃ x ∈ xs, make x = .ok a
  | [], as, h => by
      obtain rfl : [] = as := Except.ok.inj h
      exact ⟨fun _ hx => (List.not_mem_nil hx).elim, fun _ ha => (List.not_mem_nil ha).elim⟩
  | x :: xs, as, h => by
      rw [List.mapM_cons] at h
      cases hx : make x with
      | error e => simp [hx, bind, Except.bind] at h
      | ok a =>
          cases hxs : xs.mapM make with
          | error e => simp [hx, hxs, bind, Except.bind] at h
          | ok rest =>
              rw [hx, hxs] at h
              obtain rfl : a :: rest = as := Except.ok.inj h
              obtain ⟨hmade, honly⟩ := mem_mapM hxs
              constructor
              · intro y hy
                rcases List.mem_cons.mp hy with rfl | hy
                · exact ⟨a, List.mem_cons_self .., hx⟩
                · obtain ⟨b, hb, hyb⟩ := hmade y hy
                  exact ⟨b, List.mem_cons_of_mem _ hb, hyb⟩
              · intro b hb
                rcases List.mem_cons.mp hb with rfl | hb
                · exact ⟨x, List.mem_cons_self .., hx⟩
                · obtain ⟨y, hy, hyb⟩ := honly b hb
                  exact ⟨y, List.mem_cons_of_mem _ hy, hyb⟩

variable {ρ' β : Type}

/-- Following the tokens gives each row of `R` once, in order, exactly if each row is
one that is listed, the server can make something of it, and at each end of a page the
cursor lies between the last row of the page and the row after it.  `L` are the rows
that are listed, each with more to it than the row of `R`; what a client gets tells
which rows they are (`hback`). -/
theorem follow_returns_iff (key : ρ' → κ) (row : ρ → ρ')
    {send : τ → Except ε (List α × τ × Bool)} {start : τ} {make : ρ → Except ε α}
    {cut : κ → κ} {size : Nat} {L : List ρ} {R : List ρ'} {text : ρ' → β} {textOf : α → β}
    (hfollow : ∀ n, follow send n start =
      (walk (page (fun x => key (row x)) cut size L) n none).bind fun rows =>
        (rows.mapM make).toOption)
    (hsize : 0 < size) (hR : Ordered key R) (hL : Ordered (fun x => key (row x)) L)
    (hrow : ∀ x ∈ L, row x ∈ R)
    (hback : ∀ n ws, walk (page (fun x => key (row x)) cut size L) n none = some ws →
      ws.map (fun x => text (row x)) = R.map text → ws.map row = R)
    (hmake : ∀ x ∈ L, ∀ a, make x = .ok a → textOf a = text (row x)) :
    (∃ n out, follow send n start = some out ∧ out.map textOf = R.map text) ↔
      (∀ r ∈ R, ∃ x ∈ L, row x = r ∧ ∃ a, make x = .ok a) ∧
        ∀ b r, Boundary size R b r → key b ≤ cut (key b) ∧ cut (key b) < key r := by
  have hboundary : L.map row = R → ((∃ n, walk (page (fun x => key (row x)) cut size L) n none
      = some L) ↔ ∀ b r, Boundary size R b r → key b ≤ cut (key b) ∧ cut (key b) < key r) := by
    rintro rfl
    rw [exists_walk_iff hL hsize]
    constructor
    · rintro h b r ⟨k, hb, hr⟩
      rw [List.getElem?_map] at hb hr
      obtain ⟨x, hx, rfl⟩ := Option.map_eq_some_iff.mp hb
      obtain ⟨y, hy, rfl⟩ := Option.map_eq_some_iff.mp hr
      exact h x y ⟨k, hx, hy⟩
    · rintro h x y ⟨k, hx, hy⟩
      exact h _ _ ⟨k, by rw [List.getElem?_map, hx]; rfl, by rw [List.getElem?_map, hy]; rfl⟩
  constructor
  · rintro ⟨n, out, hout, hids⟩
    rw [hfollow] at hout
    obtain ⟨ws, hws, hmade⟩ := Option.bind_eq_some_iff.mp hout
    have hmem : ∀ x ∈ ws, x ∈ L := fun x hx => mem_of_walk hws hx
    have hmapAll : out.map textOf = ws.map (fun x => text (row x)) ∧
        ∀ x ∈ ws, ∃ a, make x = .ok a := mapM_map_eq (fun x hx => hmake x (hmem x hx)) hmade
    obtain ⟨hmap, hall⟩ := hmapAll
    have hrows : ws.map row = R := hback n ws hws (hmap.symm.trans hids)
    have hwsL : ws = L := by
      have hordered : Ordered (fun x => key (row x)) ws := by
        have hR' : Ordered key (ws.map row) := hrows ▸ hR
        exact (List.pairwise_map (f := row)).mp hR'
      refine hordered.eq_of_mem_iff hL fun x => ⟨hmem x, fun hx => ?_⟩
      obtain ⟨y, hy, heq⟩ := List.mem_map.mp (hrows ▸ hrow x hx)
      rwa [hL.eq_of_key hx (hmem y hy) (by rw [heq])]
    subst hwsL
    refine ⟨fun r hr => ?_, (hboundary hrows).mp ⟨n, hws⟩⟩
    obtain ⟨x, hx, rfl⟩ := List.mem_map.mp (hrows ▸ hr)
    exact ⟨x, hx, rfl, hall x hx⟩
  · rintro ⟨hall, hbetween⟩
    have hrows : L.map row = R := by
      have hordered : Ordered key (L.map row) := List.pairwise_map.mpr hL
      refine hordered.eq_of_mem_iff hR fun r => ⟨fun hr => ?_, fun hr => ?_⟩
      · obtain ⟨x, hx, rfl⟩ := List.mem_map.mp hr
        exact hrow x hx
      · obtain ⟨x, hx, rfl, -⟩ := hall r hr
        exact List.mem_map_of_mem hx
    obtain ⟨n, hn⟩ := (hboundary hrows).mpr hbetween
    have hconverts : ∀ x ∈ L, ∃ a, make x = .ok a := by
      intro x hx
      obtain ⟨y, hy, heq, hmade⟩ := hall (row x) (hrow x hx)
      rwa [hL.eq_of_key hx hy (by rw [heq])]
    obtain ⟨out, hout⟩ := exists_mapM hconverts
    have htexts : out.map textOf = L.map fun x => text (row x) :=
      (mapM_map_eq hmake (by rw [hout]; rfl)).1
    refine ⟨n, out, ?_, ?_⟩
    · rw [hfollow, hn, Option.bind_some, hout]
      rfl
    · rw [htexts, ← hrows, List.map_map]
      rfl

end Client

/-! ## Pages that end at a full one

A server can do without the row after a page, and say that there is more whenever the
page is full.  Then the last page is an empty one if the rows fill the others.  The tokens
are the keys themselves, and one of them, the blank, stands for no cursor. -/

section FullPages
variable {ε : Type} {key : ρ → κ} {blank : κ} {size : Nat} {rows rest : List ρ} {token : κ}

/-- The cursor that a token stands for. -/
def cursorAt (blank token : κ) : Option κ := if token = blank then none else some token

/-- A page with the token of the next one, which is said to be there if the page is full. -/
def fullPage (key : ρ → κ) (blank : κ) (size : Nat) (rows : List ρ) (token : κ) :
    List ρ × κ × Bool :=
  let items := (rows.filter (beyond key (cursorAt blank token))).take size
  (items, (items.getLast?.map key).getD blank, items.length = size)

theorem fullPage_eq (h : rows.filter (beyond key (cursorAt blank token)) = rest) :
    fullPage key blank size rows token =
      (rest.take size, ((rest.take size).getLast?.map key).getD blank, decide (size ≤ rest.length)) := by
  simp only [fullPage, h, List.length_take]
  congr 2
  rw [decide_eq_decide]
  omega

/-- The answer says that there is more although nothing is left, exactly if the page is
filled by the last rows. -/
theorem fullPage_hasMore_iff (h : rows.filter (beyond key (cursorAt blank token)) = rest) :
    ((fullPage key blank size rows token).2.2 = true ↔ size < rest.length) ↔ rest.length ≠ size := by
  rw [fullPage_eq h, decide_eq_true_iff]
  omega

/-- What a client gets starts with the first row beyond its token. -/
theorem head?_follow_fullPage {send : κ → Except ε (List ρ × κ × Bool)}
    (hsend : ∀ token, send token = .ok (fullPage key blank size rows token)) (hsize : 0 < size)
    {n : Nat} {out : List ρ} (h : follow send n token = some out) :
    out.head? = (rows.filter (beyond key (cursorAt blank token))).head? := by
  cases n with
  | zero => cases h
  | succ n =>
      generalize hrest : rows.filter (beyond key (cursorAt blank token)) = rest
      have hhead : (rest.take size).head? = rest.head? := by
        rw [List.head?_take, if_neg (Nat.ne_of_gt hsize)]
      rw [follow, hsend, fullPage_eq hrest] at h
      dsimp only at h
      split at h
      next hmore =>
        obtain ⟨out', -, rfl⟩ := Option.map_eq_some_iff.mp h
        have hlen := of_decide_eq_true hmore
        cases rest with
        | nil => simp at hlen; omega
        | cons r rest => rw [List.head?_append, hhead]; rfl
      next => rw [← Option.some.inj h, hhead]

/-- What lies beyond an entry of ordered rows. -/
theorem filter_beyond_getElem {j : Nat} {b : ρ} (hordered : Ordered key rest) (hb : rest[j]? = some b) :
    rest.filter (beyond key (some (key b))) = rest.drop (j + 1) := by
  obtain ⟨hj, rfl⟩ := List.getElem?_eq_some_iff.mp hb
  have hsplit : rest.take (j + 1) ++ rest.drop (j + 1) = rest := List.take_append_drop _ _
  have hnone : (rest.take (j + 1)).filter (beyond key (some (key rest[j]))) = [] := by
    refine List.filter_eq_nil_iff.mpr fun x hx => ?_
    obtain ⟨i, hi, rfl⟩ := List.mem_iff_getElem.mp hx
    rw [List.length_take] at hi
    rw [List.getElem_take]
    rcases Nat.lt_or_eq_of_le (show i ≤ j by omega) with hlt | rfl
    · have := List.pairwise_iff_getElem.mp hordered i j (by omega) hj hlt
      simpa [beyond] using le_of_lt this
    · simp [beyond]
  have hall : (rest.drop (j + 1)).filter (beyond key (some (key rest[j]))) = rest.drop (j + 1) := by
    refine List.filter_eq_self.mpr fun x hx => ?_
    obtain ⟨i, hi, rfl⟩ := List.mem_iff_getElem.mp hx
    rw [List.length_drop] at hi
    rw [List.getElem_drop]
    have := List.pairwise_iff_getElem.mp hordered j (j + 1 + i) hj (by omega) (by omega)
    simpa [beyond] using this
  calc rest.filter (beyond key (some (key rest[j])))
      = (rest.take (j + 1) ++ rest.drop (j + 1)).filter (beyond key (some (key rest[j]))) := by
        rw [hsplit]
    _ = rest.drop (j + 1) := by rw [List.filter_append, hnone, hall, List.nil_append]

/-- A cursor that lies beyond another one leaves less. -/
theorem filter_beyond_of_mem {cursor : Option κ} {b : ρ} (hb : b ∈ rows.filter (beyond key cursor)) :
    (rows.filter (beyond key cursor)).filter (beyond key (some (key b))) =
      rows.filter (beyond key (some (key b))) := by
  rw [List.filter_filter]
  refine List.filter_congr fun x _ => ?_
  cases cursor with
  | none => simp [beyond]
  | some c =>
      have hcb : c < key b := by simpa [beyond] using (List.mem_filter.mp hb).2
      simp only [beyond, Option.all_some, Bool.and_eq_left_iff_imp, decide_eq_true_iff]
      exact fun h => lt_trans hcb h

/-- Following the tokens gives each row that is left once, in order, exactly if no full page
ends with a row whose key is the blank. -/
theorem exists_follow_fullPage_iff {send : κ → Except ε (List ρ × κ × Bool)}
    (hsend : ∀ token, send token = .ok (fullPage key blank size rows token)) (hsize : 0 < size)
    (hordered : Ordered key rows)
    (hrest : rows.filter (beyond key (cursorAt blank token)) = rest) :
    (∃ n, follow send n token = some rest) ↔
      ∀ k b, rest[k * size + (size - 1)]? = some b → key b ≠ blank := by
  induction hlen : rest.length using Nat.strongRecOn generalizing rest token with
  | _ len ih =>
  subst hlen
  rcases Nat.lt_or_ge rest.length size with hlast | hmore
  case inl =>
    refine ⟨fun _ k b hb => ?_, fun _ => ⟨1, ?_⟩⟩
    · have := (List.getElem?_eq_some_iff.mp hb).1
      omega
    · rw [follow, hsend, fullPage_eq hrest]
      simp [Nat.not_le.mpr hlast, List.take_of_length_le (Nat.le_of_lt hlast)]
  case inr =>
    obtain ⟨b, hb⟩ : ∃ b, rest[size - 1]? = some b := ⟨_, List.getElem?_eq_getElem (by omega)⟩
    have hbrest : b ∈ rest := List.mem_of_getElem? hb
    have hbrows : b ∈ rows := List.mem_of_mem_filter (hrest ▸ hbrest)
    have hrestOrdered : Ordered key rest := hrest ▸ hordered.filter _
    have hindex : rest.drop (size - 1 + 1) = rest.drop size := by rw [Nat.sub_add_cancel hsize]
    have hlast : (rest.take size).getLast? = some b := by
      rw [List.getLast?_take, if_neg (Nat.ne_of_gt hsize), hb]
      rfl
    have hstep : ∀ n, follow send (n + 1) token =
        (follow send n (key b)).map (rest.take size ++ ·) := fun n => by
      rw [follow, hsend, fullPage_eq hrest, hlast]
      simp [hmore]
    -- the token of a page that does not end with the blank leads on
    have hnext : key b ≠ blank → ((∃ n, follow send n (key b) = some (rest.drop size)) ↔
        ∀ k b, (rest.drop size)[k * size + (size - 1)]? = some b → key b ≠ blank) := by
      intro hne
      refine ih _ (by rw [List.length_drop]; omega) ?_ rfl
      rw [cursorAt, if_neg hne, ← filter_beyond_of_mem (hrest.symm ▸ hbrest), hrest,
        filter_beyond_getElem hrestOrdered hb, hindex]
    have hshift : ∀ k, rest[(k + 1) * size + (size - 1)]? =
        (rest.drop size)[k * size + (size - 1)]? := fun k => by
      rw [List.getElem?_drop, Nat.succ_mul]
      congr 1
      omega
    constructor
    · rintro ⟨n, hn⟩
      cases n with
      | zero => cases hn
      | succ n =>
          rw [hstep] at hn
          obtain ⟨out, hout, happ⟩ := Option.map_eq_some_iff.mp hn
          obtain rfl : out = rest.drop size := by
            nth_rewrite 2 [← List.take_append_drop size rest] at happ
            exact List.append_cancel_left happ
          have hne : key b ≠ blank := by
            intro heq
            -- the client starts again with the first row, which does not come after `b`
            have hhead := head?_follow_fullPage hsend hsize hout
            rw [cursorAt, if_pos heq, filter_beyond_none] at hhead
            cases hrows : rows with
            | nil => simp [hrows] at hbrows
            | cons r rows' =>
                rw [hrows, List.head?_cons] at hhead
                have hr := List.mem_of_mem_head? hhead
                rw [← hindex, ← filter_beyond_getElem hrestOrdered hb] at hr
                have hlt : key b < key r := by simpa [beyond] using (List.mem_filter.mp hr).2
                rw [hrows] at hbrows hordered
                rcases List.mem_cons.mp hbrows with rfl | hmem
                · exact lt_irrefl _ hlt
                · exact lt_asymm hlt ((List.pairwise_cons.mp hordered).1 b hmem)
          intro k b' hb'
          cases k with
          | zero =>
              rw [Nat.zero_mul, Nat.zero_add, hb] at hb'
              obtain rfl := Option.some.inj hb'
              exact hne
          | succ k => exact (hnext hne).mp ⟨n, hout⟩ k b' (hshift k ▸ hb')
    · intro hall
      have hne : key b ≠ blank := hall 0 b (by rwa [Nat.zero_mul, Nat.zero_add])
      obtain ⟨n, hn⟩ := (hnext hne).mpr fun k b' hb' => hall (k + 1) b' ((hshift k).trans hb')
      exact ⟨n + 1, by rw [hstep, hn, Option.map_some, List.take_append_drop]⟩

end FullPages

end Keyset
