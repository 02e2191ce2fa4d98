import Mathlib.Data.String.Basic
import Kagzi.Logic.Keyset
import Kagzi.Server.Namespaces
import Kagzi.Server.Service

/-!
# Whether there is more

`list_namespaces` and `list_workflow_types` do not ask for the row after a page.  They say
that there is more whenever the page is full, so that the answer is wrong if the page is
filled by the last names.

The token is the last name itself, and the empty token stands for no cursor.  A page that
ends with the empty name leads back to the first page.  `exact_iff` says that nothing else
goes wrong, for any table, page and collation.
-/

namespace Kagzi

open Keyset

namespace HasMore

section Collation
variable [LinearOrder Collated]

/-! ## What is claimed -/

/-- A list of names: of all namespaces, or of the workflow types of a namespace. -/
inductive NameListing where
  | namespaces (table : Relational.Table Namespace)
  | workflowTypes (ns : String) (db : Db)

namespace NameListing

/-- The names in the tables. -/
def names : NameListing → List Collated
  | namespaces table => table.rows.map Namespace.collated
  | workflowTypes ns db => (NamespaceRepository.runsOf ns db).map fun r => ⟨r.workflowType⟩

/-- The names that an answer has, and its page. -/
def send (cfg : Config) : NameListing → PageRequest → Except Status (List Collated × PageInfo)
  | namespaces table, page =>
      (NamespaceService.listNamespaces cfg ⟨some page⟩ table).map fun resp =>
        (resp.items.map fun x => ⟨x.ns⟩, resp.page)
  | workflowTypes ns db, page =>
      (AdminService.listWorkflowTypes ⟨ns, some page⟩ db).map fun resp =>
        (resp.items.map fun x => ⟨x.workflowType⟩, resp.page)

end NameListing

/-- The name comes after the one that the token is. -/
def After (token : String) (name : Collated) : Prop := token ≠ "" → Collated.mk token < name

/-- The answer says that there is more exactly if a further name comes after those that it
has, and following the tokens gives every name after the token once, in ascending order. -/
structure Exact (cfg : Config) (l : NameListing) (page : PageRequest) : Prop where
  hasMore : ∀ names info, l.send cfg page = .ok (names, info) →
    (info.hasMore = true ↔ ∃ name ∈ l.names, After page.pageToken name ∧ ∀ x ∈ names, x < name)
  enumerates : ∃ n names, follow (fun token => (l.send cfg { page with pageToken := token }).map
      fun answer => (answer.1, answer.2.nextPageToken, answer.2.hasMore)) n page.pageToken = some names ∧
    names.Pairwise (· < ·) ∧ ∀ name, name ∈ names ↔ name ∈ l.names ∧ After page.pageToken name

/-- Every answer is exact. -/
def AlwaysExact (cfg : Config) : Prop :=
  ∀ (l : NameListing) (page : PageRequest) (names : List Collated) (info : PageInfo),
    l.send cfg page = .ok (names, info) → Exact cfg l page

/-! ## The condition -/

/-- The number of names that a page holds. -/
def sizeOf (page : PageRequest) : Nat := pageLimit (normalizePageSize page.pageSize 20 100)

/-- The names after the token, in ascending order. -/
def left (l : NameListing) (token : String) : List Collated :=
  (sorted id l.names.dedup).filter (beyond id (cursorAt ⟨""⟩ ⟨token⟩))

/-- The names that are left do not just fill the page, and no full page ends with the empty
name. -/
structure Holds (l : NameListing) (page : PageRequest) : Prop where
  unfilled : (left l page.pageToken).length ≠ sizeOf page
  named : ∀ k name, (left l page.pageToken)[k * sizeOf page + (sizeOf page - 1)]? = some name →
    name.text ≠ ""

/-! ## Both listings are one -/

section Listings
variable {cfg : Config} {l : NameListing} {page : PageRequest} {token : String}

omit [LinearOrder Collated] in
theorem sizeOf_pos (page : PageRequest) : 0 < sizeOf page := by
  have hcast := asUsize_of_nonneg (x := max 1 (min (normalizePageSize page.pageSize 20 100) 100))
    (by omega) (by omega)
  unfold sizeOf pageLimit
  omega

theorem ordered_names (l : NameListing) : Ordered id (sorted id l.names.dedup) :=
  ordered_sorted (List.nodup_dedup _)

theorem mem_left {name : Collated} : name ∈ left l token ↔ name ∈ l.names ∧ After token name := by
  unfold left cursorAt After
  rw [List.mem_filter, mem_sorted, List.mem_dedup]
  by_cases h : token = ""
  · simp [h, beyond]
  · simp [h, beyond]

theorem ordered_left (l : NameListing) (token : String) : (left l token).Pairwise (· < ·) :=
  (ordered_names l).filter _

/-- The cursor of a name, as the queries compare with it. -/
theorem all_nameCursor (name : Collated) :
    ((nameCursor token).all fun c => Collated.mk c < name) = beyond id (cursorAt ⟨""⟩ ⟨token⟩) name := by
  unfold nameCursor cursorAt
  by_cases h : token = "" <;> simp [h, beyond]

/-- Rows with different names, in the order of the names. -/
theorem map_sorted {ρ : Type} {nameOf : ρ → Collated} {rows : List ρ}
    (h : rows.Pairwise fun r r' => nameOf r ≠ nameOf r') (p : Collated → Bool) :
    (sorted nameOf (rows.filter fun r => p (nameOf r))).map nameOf =
      (sorted id (rows.map nameOf).dedup).filter p := by
  have hordered : Ordered id ((sorted nameOf (rows.filter fun r => p (nameOf r))).map nameOf) :=
    List.pairwise_map.mpr (ordered_sorted (h.filter _))
  refine hordered.eq_of_mem_iff ((ordered_sorted (List.nodup_dedup _)).filter p) fun name => ?_
  simp only [List.mem_map, mem_sorted, List.mem_filter, List.mem_dedup]
  constructor
  · rintro ⟨r, ⟨hr, hp⟩, rfl⟩
    exact ⟨⟨r, hr, rfl⟩, hp⟩
  · rintro ⟨⟨r, hr, rfl⟩, hp⟩
    exact ⟨r, ⟨hr, hp⟩, rfl⟩

/-- An answer is a full page of the names. -/
def IsFullPage (l : NameListing) (page : PageRequest) (answer : List Collated × PageInfo) : Prop :=
  (answer.1, Collated.mk answer.2.nextPageToken, answer.2.hasMore) =
    fullPage id ⟨""⟩ (sizeOf page) (sorted id l.names.dedup) ⟨page.pageToken⟩

/-- A page of rows is a page of their names. -/
theorem fullPage_of_rows {ρ : Type} (nameOf : ρ → Collated) (items : List ρ) {info : PageInfo}
    {names : List Collated}
    (hitems : items.map nameOf = (left l page.pageToken).take (sizeOf page)) (hnames : names = items.map nameOf)
    (htoken : info.nextPageToken = (items.getLast?.map fun r => (nameOf r).text).getD "")
    (hmore : info.hasMore = decide (items.length = sizeOf page)) :
    IsFullPage l page (names, info) := by
  have hlast : Collated.mk info.nextPageToken =
      (((left l page.pageToken).take (sizeOf page)).getLast?.map id).getD ⟨""⟩ := by
    rw [htoken, ← hitems, List.getLast?_map]
    cases items.getLast? <;> rfl
  have hlength : items.length = ((left l page.pageToken).take (sizeOf page)).length := by
    rw [← hitems, List.length_map]
  show (names, Collated.mk info.nextPageToken, info.hasMore) = _
  rw [hlast, hmore, hlength, hnames, hitems]
  rfl

theorem send_namespaces (cfg : Config) (table : Relational.Table Namespace) (page : PageRequest) :
    ∃ answer, (NameListing.namespaces table).send cfg page = .ok answer ∧
      IsFullPage (.namespaces table) page answer := by
  have hnames : table.rows.Pairwise fun r r' => r.collated ≠ r'.collated :=
    table.distinct.imp fun hne heq => hne (.inr (Collated.mk.inj heq))
  refine ⟨_, rfl, fullPage_of_rows Namespace.collated
    (NamespaceRepository.list (normalizePageSize page.pageSize 20 100)
      (nameCursor page.pageToken) table).items ?_ ?_ ?_ rfl⟩
  · show ((sorted Namespace.collated (table.rows.filter fun r =>
      (nameCursor page.pageToken).all fun c => Collated.mk c < r.collated)).take (sizeOf page)).map
        Namespace.collated = _
    simp only [all_nameCursor]
    rw [List.map_take, map_sorted hnames]
    rfl
  · rw [List.map_map]
    rfl
  · rfl

theorem send_workflowTypes {ns : String} (hns : ns ≠ "") (cfg : Config) (db : Db) (page : PageRequest) :
    ∃ answer, (NameListing.workflowTypes ns db).send cfg page = .ok answer ∧
      IsFullPage (.workflowTypes ns db) page answer := by
  have hrequired : required ns "namespace" = .ok ns := if_neg hns
  refine ⟨_, by rw [NameListing.send, AdminService.listWorkflowTypes, hrequired]; rfl,
    fullPage_of_rows (fun x : WorkflowTypeInfo => ⟨x.workflowType⟩)
    (NamespaceRepository.listWorkflowTypes ns (normalizePageSize page.pageSize 20 100)
      (nameCursor page.pageToken) db).items ?_ rfl rfl rfl⟩
  show List.map _ (List.map (NamespaceRepository.workflowTypeInfo ns db) ((sorted id
    ((NameListing.workflowTypes ns db).names.dedup.filter fun t =>
      (nameCursor page.pageToken).all fun c => Collated.mk c < t)).take (sizeOf page))) = _
  have hback : (fun x : WorkflowTypeInfo => Collated.mk x.workflowType) ∘
      NamespaceRepository.workflowTypeInfo ns db = id := rfl
  have hsorted : sorted id ((NameListing.workflowTypes ns db).names.dedup.filter
      (beyond id (cursorAt ⟨""⟩ ⟨page.pageToken⟩))) = left (.workflowTypes ns db) page.pageToken :=
    sorted_filter (List.nodup_dedup _) _
  simp only [all_nameCursor]
  rw [List.map_map, hback, List.map_id, hsorted]

/-- An answer is a page of the names, whichever the listing. -/
theorem isFullPage_of_send {answer : List Collated × PageInfo} (h : l.send cfg page = .ok answer) :
    ∀ token, ∃ answer', l.send cfg { page with pageToken := token } = .ok answer' ∧
      IsFullPage l { page with pageToken := token } answer' := by
  intro token
  cases l with
  | namespaces table => exact send_namespaces cfg table _
  | workflowTypes ns db =>
      refine send_workflowTypes (fun hns => ?_) cfg db _
      subst hns
      cases h

/-- A client that follows the tokens of a listing follows full pages. -/
theorem follow_eq {answer : List Collated × PageInfo} (h : l.send cfg page = .ok answer) (n : Nat)
    (token : String) :
    follow (fun token => (l.send cfg { page with pageToken := token }).map
        fun answer => (answer.1, answer.2.nextPageToken, answer.2.hasMore)) n token =
      follow (fun token => (.ok (fullPage id ⟨""⟩ (sizeOf page) (sorted id l.names.dedup) token) :
        Except Status _)) n ⟨token⟩ := by
  refine (follow_rename Collated.mk (fun token => ?_) n token).symm
  obtain ⟨answer', hanswer', hpage⟩ := isFullPage_of_send h token
  refine ⟨_, _, _, by rw [hanswer']; rfl, ?_⟩
  exact congrArg Except.ok hpage.symm

/-- A further name comes after those of the answer exactly if more are left than the page
holds. -/
theorem further_iff :
    (∃ name ∈ l.names, After page.pageToken name ∧
      ∀ x ∈ (left l page.pageToken).take (sizeOf page), x < name) ↔
        sizeOf page < (left l page.pageToken).length := by
  have hordered := ordered_left l page.pageToken
  constructor
  · rintro ⟨name, hname, hafter, hlast⟩
    by_contra hle
    rw [List.take_of_length_le (Nat.le_of_not_lt hle)] at hlast
    exact lt_irrefl _ (hlast name (mem_left.mpr ⟨hname, hafter⟩))
  · intro hlt
    obtain ⟨hname, hafter⟩ := mem_left.mp (List.getElem_mem hlt)
    refine ⟨_, hname, hafter, fun x hx => ?_⟩
    obtain ⟨i, hi, rfl⟩ := List.mem_iff_getElem.mp hx
    rw [List.length_take] at hi
    rw [List.getElem_take]
    exact List.pairwise_iff_getElem.mp hordered i (sizeOf page) (by omega) hlt (by omega)

/-- What a client gets is all that is left. -/
theorem enumerates_iff {names : List Collated} :
    (names.Pairwise (· < ·) ∧ ∀ name, name ∈ names ↔ name ∈ l.names ∧ After token name) ↔
      names = left l token := by
  constructor
  · rintro ⟨hordered, hmem⟩
    have hkeyed : Ordered id names := hordered
    exact hkeyed.eq_of_mem_iff (ordered_left l token) fun name => (hmem name).trans mem_left.symm
  · rintro rfl
    exact ⟨ordered_left l token, fun _ => mem_left⟩

end Listings

/-- A listing is exact exactly if the names that are left do not just fill the page, and no
full page ends with the empty name. -/
theorem exact_iff (cfg : Config) {l : NameListing} {page : PageRequest} {names : List Collated}
    {info : PageInfo} (h : l.send cfg page = .ok (names, info)) : Exact cfg l page ↔ Holds l page := by
  obtain ⟨answer, hanswer, hpage⟩ := isFullPage_of_send h page.pageToken
  obtain rfl := Except.ok.inj (h.symm.trans hanswer)
  have hmore : (info.hasMore = true ↔ sizeOf page < (left l page.pageToken).length) ↔
      (left l page.pageToken).length ≠ sizeOf page := by
    rw [← fullPage_hasMore_iff (rfl : _ = left l page.pageToken), ← hpage]
  have hnames : names = (left l page.pageToken).take (sizeOf page) := congrArg Prod.fst hpage
  have hfollow := exists_follow_fullPage_iff (ε := Status) (fun _ => rfl) (sizeOf_pos page)
    (ordered_names l) (rfl : _ = left l page.pageToken)
  constructor
  · rintro ⟨hexact, n, out, hout, hall⟩
    rw [follow_eq h, enumerates_iff.mp hall] at hout
    refine ⟨hmore.mp ?_, fun k name hname htext => ?_⟩
    · rw [hexact names info h, hnames]
      exact further_iff
    · exact hfollow.mp ⟨n, hout⟩ k name hname (congrArg Collated.mk htext)
  · rintro ⟨hunfilled, hnamed⟩
    constructor
    · intro names' info' h'
      obtain ⟨rfl, rfl⟩ := Prod.mk.inj (Except.ok.inj (h.symm.trans h'))
      rw [hmore.mpr hunfilled, hnames]
      exact further_iff.symm
    · obtain ⟨n, hn⟩ := hfollow.mpr fun k name hname heq =>
        hnamed k name hname (congrArg Collated.text heq)
      exact ⟨n, _, by rw [follow_eq h]; exact hn, enumerates_iff.mpr rfl⟩

end Collation

/-! ## A table with one row -/

/-- The order of the code points. -/
abbrev codePoints : LinearOrder Collated :=
  LinearOrder.lift' Collated.text fun _ _ h => congrArg Collated.mk h

/-- The table of namespaces as it is in the beginning. -/
def defaultTable : Relational.Table Namespace where
  rows := [⟨⟨"default", true, 0⟩, 1, "Default", none, 0⟩]
  distinct := List.pairwise_singleton _ _
  valid := fun _ _ => trivial

theorem exact_iff_default_size :
    @Exact codePoints .sample (.namespaces defaultTable) ⟨0, "", false⟩ := by
  let := codePoints
  have hsend : (NameListing.namespaces defaultTable).send .sample ⟨0, "", false⟩ =
      .ok ([⟨"default"⟩], ⟨"default", false, 0⟩) := rfl
  have hleft : left (.namespaces defaultTable) "" = [⟨"default"⟩] := rfl
  have hsize : sizeOf ⟨0, "", false⟩ = 20 := by decide
  refine (exact_iff .sample hsend).mpr ⟨?_, fun k name hname => ?_⟩
  · simp [hleft, hsize]
  · simp [hleft, hsize] at hname

/-- A page of one name is full, and nothing comes after it. -/
theorem full_page_is_the_last : ¬ @AlwaysExact codePoints .sample := by
  let := codePoints
  intro hexact
  have hsend : (NameListing.namespaces defaultTable).send .sample ⟨1, "", false⟩ =
      .ok ([⟨"default"⟩], ⟨"default", true, 0⟩) := rfl
  obtain ⟨name, hname, -, hlt⟩ := ((hexact _ _ _ _ hsend).hasMore _ _ hsend).mp rfl
  obtain rfl : name = ⟨"default"⟩ := List.mem_singleton.mp hname
  exact lt_irrefl _ (hlt _ (List.mem_singleton.mpr rfl))

end HasMore

end Kagzi
