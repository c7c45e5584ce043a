import StakkaWeb.Listing

/-!
# What the pages show

The pages of a query tile what it matches as long as no edge between two of them falls among discs
whose titles compare equal, and a search finds what contains the text as long as the text has no
wildcards.
-/

set_option autoImplicit false

namespace StakkaWeb

open Lib

/-! ## The pages -/

/-- There are pages enough for every row. -/
theorem le_pageCount_mul (total : Nat) {perPage : Nat} (h : 0 < perPage) :
    total ≤ pageCount total perPage * perPage := by
  have hceil : total ≤ (total + perPage - 1) / perPage * perPage := by
    have hdiv := Nat.div_add_mod (total + perPage - 1) perPage
    have hmod := Nat.mod_lt (total + perPage - 1) h
    rw [Nat.mul_comm] at hdiv
    omega
  exact Nat.le_trans hceil (Nat.mul_le_mul_right _ (Nat.le_max_right _ _))

namespace Catalog

variable {c : Catalog}

theorem Keyed.matching_nodup (h : c.Keyed) (f : Filter) : (c.matching f).Nodup :=
  (List.Nodup.of_map _ h.ids).filter _

theorem Keyed.matching_slots (h : c.Keyed) (f : Filter) :
    ((c.matching f).map Disc.slot).Nodup :=
  h.slots.sublist (List.filter_sublist.map _)

/-- The pages of one sorted query, counted from one. -/
theorem pages_of_key {κ : Type} [LinearOrder κ] (key : Disc → κ) {rows : List Disc}
    (hrows : rows.Nodup) {perPage : Nat} (hper : 1 ≤ perPage) :
    (∀ pages : Nat → List Disc,
        (∀ page ∈ pageNumbers rows.length perPage,
          Paging.Page key rows perPage (max page 1 - 1) (pages page)) →
        ((pageNumbers rows.length perPage).flatMap pages).Perm rows) ↔
      ∀ p, ¬ Paging.Torn key rows (p * perPage) := by
  rw [← Paging.pages_tile hrows (le_pageCount_mul rows.length hper)]
  unfold pageNumbers
  constructor
  · intro h pages hpages
    have := h (fun page => pages (page - 1)) fun page hpage => by
      obtain ⟨p, hp, rfl⟩ := List.mem_map.mp hpage
      rw [Nat.max_eq_left (Nat.le_add_left 1 p)]
      exact hpages p (List.mem_range.mp hp)
    rwa [List.flatMap_map] at this
  · intro h pages hpages
    rw [List.flatMap_map]
    refine h (fun p => pages (p + 1)) fun p hp => ?_
    have := hpages (p + 1) (List.mem_map.mpr ⟨p, List.mem_range.mpr hp, rfl⟩)
    rwa [Nat.max_eq_left (Nat.le_add_left 1 p)] at this

/-- **The pages of the catalogue partition what the filter matches**, whatever order each query
gives the discs that compare equal, exactly when no page of a catalogue sorted by title ends between
two discs whose titles are the same under `NOCASE`. -/
theorem pages_partition (h : c.Keyed) (f : Filter) (order : String) {perPage : Nat}
    (hper : 1 ≤ perPage) :
    (∀ pages : Nat → List Disc,
        (∀ page ∈ pageNumbers (c.countDiscs f) perPage,
          c.ListDiscs page perPage f order (pages page)) →
        ((pageNumbers (c.countDiscs f) perPage).flatMap pages).Perm (c.matching f)) ↔
      (order = "title" → ∀ p, ¬ Paging.Torn nocase (c.matching f) (p * perPage)) := by
  by_cases horder : order = "title"
  · unfold ListDiscs
    simp only [if_pos horder]
    rw [imp_iff_right horder]
    exact pages_of_key nocase (h.matching_nodup f) hper
  · unfold ListDiscs
    simp only [if_neg horder]
    -- no two discs share a slot
    have htile := (pages_of_key Disc.slot (h.matching_nodup f) hper).mpr fun p =>
      Paging.not_torn_of_injective (h.matching_slots f) _
    exact iff_of_true htile fun ht => absurd ht horder

/-- Thirteen discs of one title, one more than a page of covers holds. -/
def boxSet : Catalog where
  discs := (List.range 13).map fun n =>
    ⟨n + 1, n + 1, "Box set", none, none, none, none, none, .stored, none, 0, 0⟩
  events := []

/-- Sorted by title, the two pages of thirteen equal titles need not hold thirteen discs. -/
theorem pages_partition_boxSet :
    boxSet.Keyed ∧ ¬ ∀ pages : Nat → List Disc,
      (∀ page ∈ pageNumbers (boxSet.countDiscs {}) 12,
        boxSet.ListDiscs page 12 {} "title" (pages page)) →
      ((pageNumbers (boxSet.countDiscs {}) 12).flatMap pages).Perm (boxSet.matching {}) := by
  have hkeyed : boxSet.Keyed := by decide
  refine ⟨hkeyed, fun h => ?_⟩
  have htorn : Paging.Torn nocase (boxSet.matching {}) (1 * 12) := by decide
  exact (pages_of_key nocase (hkeyed.matching_nodup {}) (by decide)).mp h 1 htorn

/-- The covers of the box set, sorted by slot. -/
theorem pages_partition_slots :
    (∀ pages : Nat → List Disc,
        (∀ page ∈ pageNumbers (boxSet.countDiscs {}) 12,
          boxSet.ListDiscs page 12 {} "slot" (pages page)) →
        ((pageNumbers (boxSet.countDiscs {}) 12).flatMap pages).Perm (boxSet.matching {})) ↔
      ("slot" = "title" → ∀ p, ¬ Paging.Torn nocase (boxSet.matching {}) (p * 12)) :=
  pages_partition (by decide) {} "slot" (by decide)

/-! ## The search -/

section Search

variable {query : String}

/-- A character of the query that a pattern takes for a wildcard. -/
def Wild (c : Char) : Prop := c = '%' ∨ c = '_'

instance (c : Char) : Decidable (Wild c) := inferInstanceAs (Decidable (_ ∨ _))

theorem token_of_not_wild {c : Char} (h : ¬ Wild c) : token c = .lit c := by
  unfold token
  rw [if_neg fun hc => h (.inl hc), if_neg fun hc => h (.inr hc)]

theorem tokens_pattern (query : String) :
    (Filter.pattern query).toList.map token = Like.around (query.toList.map token) := by
  unfold Filter.pattern Like.around
  rw [String.toList_append, String.toList_append, List.map_append, List.map_append]
  rfl

/-- Symbols that fit are letters that are equal when the case is taken off. -/
theorem forall₂_fits {query found : List Char} :
    List.Forall₂ (Like.Fits sameLetter) (query.map .lit) found ↔
      query.map Char.toLower = found.map Char.toLower := by
  rw [List.forall₂_map_left_iff, ← List.forall₂_eq_eq_eq, List.forall₂_map_left_iff,
    List.forall₂_map_right_iff]
  have hfits : (fun a b => Like.Fits sameLetter (.lit a) b) =
      fun a b : Char => a.toLower = b.toLower := by
    funext a b
    simp [Like.Fits, sameLetter]
  rw [hfits]

/-- A text without wildcards is looked for as it stands. -/
theorem likeColumn_pattern (h : ∀ c ∈ query.toList, ¬ Wild c) (column : Option String) :
    likeColumn column (Filter.pattern query) =
      column.any fun text => decide (lowered query <:+: lowered text) := by
  unfold likeColumn
  congr 1
  funext text
  rw [tokens_pattern, List.map_congr_left fun c hc => token_of_not_wild (h c hc), Bool.eq_iff_iff,
    decide_eq_true_eq, Like.like_around (by simp)]
  unfold lowered
  rw [List.infix_map_iff]
  simp only [forall₂_fits]

theorem where_query (hne : query ≠ "") (d : Disc) :
    Filter.where_ { query := some query } d =
      (Filter.columns d).any fun column => likeColumn column (Filter.pattern query) := by
  simp [Filter.where_, given, hne]

/-- Without wildcards the filter is the search. -/
theorem matching_query (hne : query ≠ "") (h : ∀ c ∈ query.toList, ¬ Wild c) :
    c.matching { query := some query } = c.discs.filter (contains query) := by
  unfold matching
  refine List.filter_congr fun d _ => ?_
  rw [where_query hne]
  unfold contains
  simp only [likeColumn_pattern h]

/-- The query with something else in the place of its wildcards. -/
def decoy (query : String) : List Char := query.toList.map fun c => if Wild c then 'x' else c

/-- The pattern of a query matches its decoy. -/
theorem like_decoy (query : String) :
    likeColumn (some (String.ofList (decoy query))) (Filter.pattern query) = true := by
  unfold likeColumn
  rw [Option.any_some, tokens_pattern, String.toList_ofList]
  refine Like.like_around_of (Like.like_of_forall₂
    (R := fun t b => ∃ c, t = token c ∧ b = if Wild c then 'x' else c) ?_ ?_)
  · rintro _ _ ⟨c, rfl, rfl⟩
    by_cases hrun : c = '%'
    · exact .inl (by rw [hrun]; rfl)
    · right
      by_cases hone : c = '_'
      · rw [hone]
        trivial
      · have hc : ¬ Wild c := fun h => h.elim hrun hone
        rw [token_of_not_wild hc, if_neg hc]
        exact beq_self_eq_true _
  · unfold decoy
    rw [List.forall₂_map_left_iff, List.forall₂_map_right_iff, List.forall₂_same]
    exact fun c _ => ⟨c, rfl, rfl⟩

/-- A decoy of a query with wildcards does not contain it. -/
theorem decoy_not_infix {c : Char} (hc : c ∈ query.toList) (hwild : Wild c) :
    ¬ lowered query <:+: lowered (String.ofList (decoy query)) := by
  intro hinfix
  have hsame : lowered query = lowered (String.ofList (decoy query)) := by
    apply hinfix.eq_of_length
    simp [lowered, decoy]
  unfold lowered decoy at hsame
  rw [String.toList_ofList, List.map_map, List.map_inj_left] at hsame
  have hletter := hsame c hc
  rw [Function.comp_apply, if_pos hwild] at hletter
  rcases hwild with rfl | rfl <;> exact absurd hletter (by decide)

/-- The catalogue of one disc that is called like this. -/
def single (title : String) : Catalog where
  discs := [⟨1, 1, title, none, none, none, none, none, .stored, none, 0, 0⟩]
  events := []

theorem single_keyed (title : String) : (single title).Keyed where
  ids := List.nodup_singleton _
  slots := List.nodup_singleton _
  range := by
    intro d hd
    cases List.mem_singleton.mp hd
    exact (by decide : slotMin ≤ 1 ∧ 1 ≤ slotMax)

/-- The total and the pages of a search are those of the discs that contain the query. -/
structure Finds (c : Catalog) (query : String) : Prop where
  count : c.countDiscs { query := some query } = (c.discs.filter (contains query)).length
  pages : ∀ perPage, 1 ≤ perPage → ∀ pages : Nat → List Disc,
    (∀ page ∈ pageNumbers (c.countDiscs { query := some query }) perPage,
      c.ListDiscs page perPage { query := some query } "slot" (pages page)) →
    ∀ d, d ∈ (pageNumbers (c.countDiscs { query := some query }) perPage).flatMap pages ↔
      d ∈ c.discs ∧ contains query d = true

/-- **A search finds exactly the text typed when none of its characters is a wildcard of `LIKE`.**
For any other query there is a catalogue in which it finds a disc that does not contain it. -/
theorem search_literal (hne : query ≠ "") :
    (∀ c : Catalog, c.Keyed → c.Finds query) ↔ ∀ c ∈ query.toList, ¬ Wild c := by
  constructor
  · intro h c hc hwild
    have hcount := (h _ (single_keyed (String.ofList (decoy query)))).count
    have hfound : Filter.where_ { query := some query }
        ⟨1, 1, String.ofList (decoy query), none, none, none, none, none, .stored, none, 0, 0⟩ =
          true := by
      rw [where_query hne]
      exact List.any_eq_true.mpr ⟨_, List.mem_cons_self, like_decoy query⟩
    have habsent : contains query
        ⟨1, 1, String.ofList (decoy query), none, none, none, none, none, .stored, none, 0, 0⟩ =
          false := by
      simp [contains, Filter.columns, decoy_not_infix hc hwild]
    unfold countDiscs matching single at hcount
    rw [List.filter_cons_of_pos hfound, List.filter_cons_of_neg (by rw [habsent]; decide)] at hcount
    exact absurd hcount (by simp)
  · intro h c hc
    have hmatching := matching_query (c := c) hne h
    refine ⟨congrArg List.length hmatching, fun perPage hper pages hpages d => ?_⟩
    have htile := (pages_of_key Disc.slot (hc.matching_nodup { query := some query }) hper).mpr
      (fun p => Paging.not_torn_of_injective (hc.matching_slots _) _) pages hpages
    unfold countDiscs
    rw [htile.mem_iff, hmatching, List.mem_filter]

/-- A search for `100%` also finds "1000 songs". -/
theorem search_literal_percent :
    (single "1000 songs").Keyed ∧ ¬ (single "1000 songs").Finds "100%" := by
  refine ⟨single_keyed _, fun h => ?_⟩
  have hcount := h.count
  revert hcount
  decide

/-- A search for "rock" has no wildcards. -/
theorem search_literal_rock : (∀ c : Catalog, c.Keyed → c.Finds "rock") ↔
    ∀ c ∈ "rock".toList, ¬ Wild c :=
  search_literal (by decide)

end Search

end Catalog

end StakkaWeb
