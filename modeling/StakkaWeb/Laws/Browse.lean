import Mathlib.Algebra.BigOperators.Group.Finset.Piecewise
import Mathlib.Algebra.Ring.Nat
import Mathlib.Data.List.DropRight
import StakkaWeb.Browse
import StakkaWeb.Laws.Listing
import StakkaWeb.Laws.Upkeep

/-!
# Where the links of the catalogue lead

What a page puts into its links, `index` reads back from them: the same filter, the same order, the
next page. So following `Next` from the first page goes through all pages of one listing, and the
count on a chip is that of the page behind it.
-/

set_option autoImplicit false

namespace StakkaWeb

open Lib

/-! ## What is read back -/

namespace Taxonomy

theorem toList_strip (s : String) :
    (strip s).toList = (s.toList.dropWhile isSpace).rdropWhile isSpace :=
  String.toList_ofList

/-- A text that has been stripped has nothing left to strip. -/
theorem strip_strip (s : String) : strip (strip s) = strip s := by
  have hhead : (strip s).toList.dropWhile isSpace = (strip s).toList := by
    rw [toList_strip, List.dropWhile_eq_self_iff]
    intro hlen hspace
    have hleading := List.rdropWhile_prefix isSpace (l := s.toList.dropWhile isSpace)
    have hlen' := Nat.lt_of_lt_of_le hlen hleading.length_le
    rw [hleading.getElem hlen] at hspace
    exact List.dropWhile_get_zero_not _ _ hlen' hspace
  refine String.toList_injective ?_
  rw [toList_strip, hhead, toList_strip, List.rdropWhile_idempotent]

/-- What `lower` makes of a character. -/
def lowerChar (c : Char) : Char := if c = '\u212A' then 'k' else c.toLower

theorem lower_beq (a b : String) :
    (lower a == lower b) = decide (a.toList.map lowerChar = b.toList.map lowerChar) := by
  rw [beq_eq_decide]
  refine decide_eq_decide.mpr ?_
  rw [← String.toList_inj]
  unfold lower
  rw [String.toList_map, String.toList_map]
  rfl

/-- A word of a list of different words matches itself, and no text matches none of them. -/
theorem match_self {known : List String} (hstrip : ∀ k ∈ known, strip k = k)
    (hsame : ∀ a ∈ known, ∀ b ∈ known, a.toList.map lowerChar = b.toList.map lowerChar → a = b)
    {k : String} (hk : k ∈ known) : match_ (some k) known = some k := by
  have hfind : ∃ j, match_ (some k) known = some j := by
    refine Option.isSome_iff_exists.mp ?_
    unfold match_
    rw [Option.getD_some, hstrip k hk, List.find?_isSome]
    exact ⟨k, hk, beq_self_eq_true _⟩
  obtain ⟨j, hj⟩ := hfind
  have hlower := List.find?_some hj
  rw [Option.getD_some, hstrip k hk, lower_beq, decide_eq_true_eq] at hlower
  rw [hj, hsame k hk j (match_mem hj) hlower]

theorem match_none {known : List String} (hne : ∀ k ∈ known, k.toList ≠ []) :
    match_ none known = none := by
  unfold match_
  rw [List.find?_eq_none]
  intro k hk hlower
  rw [lower_beq, decide_eq_true_eq] at hlower
  exact hne k hk (List.map_eq_nil_iff.mp hlower.symm)

/-- What has been matched matches itself. -/
theorem category_category (value : Option String) : category (category value) = category value := by
  cases h : category value with
  | none => exact match_none (by decide)
  | some k => exact match_self (by decide) (by decide) (match_mem h)

theorem platform_platform (k value : Option String) : platform k (platform k value) = platform k value := by
  cases h : platform k value with
  | none =>
    unfold platform
    split
    · exact match_none (by decide)
    · rfl
  | some p =>
    obtain ⟨hgames, hp⟩ := platform_games h
    unfold platform
    rw [if_pos hgames]
    exact match_self (by decide) (by decide) hp

end Taxonomy

theorem given_given (value : Option String) : given (given value) = given value := by
  unfold given
  rw [Option.filter_filter]
  simp

/-! ## Links -/

section Links

variable {c : Catalog} {before : Option View} {args : IndexArgs} {discs : List Disc}

theorem ordering_ne (args : IndexArgs) : args.ordering ≠ "" := by
  unfold IndexArgs.ordering
  cases h : given args.order with
  | none => decide
  | some order => exact of_decide_eq_true (Option.filter_eq_some_iff.mp h).2

/-- A link is read back with the search, the status and the order of its page, and with the category
and the console that it names. -/
theorem link_filter (page : Option Int) {category platform : Option String}
    (hcategory : Taxonomy.category category = category)
    (hplatform : Taxonomy.platform category platform = platform) :
    ((indexPage c before args discs).link page category platform).filter =
      ⟨args.filter.query, args.filter.status, category, platform⟩ := by
  have hquery : ((indexPage c before args discs).link page category platform).query = args.query :=
    Taxonomy.strip_strip _
  have hcategoryOf : ((indexPage c before args discs).link page category platform).categoryOf =
      category := hcategory
  have hplatformOf : ((indexPage c before args discs).link page category platform).platformOf =
      platform := by
    unfold IndexArgs.platformOf
    rw [hcategoryOf]
    exact hplatform
  have hstatus : given ((indexPage c before args discs).link page category platform).status =
      given args.status := given_given _
  unfold IndexArgs.filter
  rw [hquery, hcategoryOf, hplatformOf, hstatus]

theorem link_ordering (page : Option Int) (category platform : Option String) :
    ((indexPage c before args discs).link page category platform).ordering = args.ordering := by
  have hgiven : given (some args.ordering) = some args.ordering := by
    unfold given
    rw [Option.filter_some, if_pos (decide_eq_true (ordering_ne args))]
  show (given (some args.ordering)).getD "slot" = _
  rw [hgiven]
  rfl

/-- `Next` is offered while there are more pages. -/
theorem next_eq {args' : IndexArgs} (h : (indexPage c before args discs).next = some args') :
    args' = (indexPage c before args discs).link (some (args.number + 1)) args.categoryOf
        args.platformOf ∧
      args.number <
        pageCount (c.countDiscs args.filter) ((args.session before).getD .covers).perPage := by
  unfold IndexPage.next at h
  split at h
  next hoffered => exact ⟨(Option.some.inj h).symm, hoffered.2.2⟩
  next => cases h

theorem link_number (p : IndexPage) (n : Nat) (category platform : Option String) :
    (p.link (some (n + 1)) category platform).number = n + 1 := by
  unfold IndexPage.link IndexArgs.number
  rw [Option.getD_some]
  omega

/-- `Next` leads to the next page of the same listing. -/
theorem next_reads {args' : IndexArgs} (h : (indexPage c before args discs).next = some args') :
    args'.filter = args.filter ∧ args'.ordering = args.ordering ∧
      args'.session (args.session before) = args.session before ∧ args'.number = args.number + 1 := by
  obtain ⟨rfl, -⟩ := next_eq h
  have hcategory : Taxonomy.category args.categoryOf = args.categoryOf :=
    Taxonomy.category_category args.category
  have hplatform : Taxonomy.platform args.categoryOf args.platformOf = args.platformOf :=
    Taxonomy.platform_platform args.categoryOf args.platform
  have hfilter := @link_filter c before args discs (some (args.number + 1)) _ _ hcategory hplatform
  refine ⟨hfilter.trans ?_, link_ordering _ _ _, rfl, link_number _ _ _ _⟩
  unfold IndexArgs.filter
  dsimp only

end Links

/-! ## Following `Next` -/

namespace Catalog

variable {c : Catalog}

theorem ListDiscs.length_eq {page perPage : Nat} {f : Filter} {order : String} {discs : List Disc}
    (h : c.ListDiscs page perPage f order discs) (hpage : 1 ≤ page) :
    discs.length = min perPage ((c.matching f).length - (page - 1) * perPage) := by
  unfold ListDiscs at h
  rw [Nat.max_eq_left hpage] at h
  split at h
  · exact h.length_eq
  · exact h.length_eq

end Catalog

section Walk

variable {c : Catalog} {κ : Type} [LinearOrder κ]

theorem number_pos (args : IndexArgs) : 1 ≤ args.number := by
  unfold IndexArgs.number
  omega

theorem perPage_pos (view : View) : 1 ≤ view.perPage := by cases view <;> decide

/-- The window of a page ends where the next one begins. -/
theorem number_mul (args : IndexArgs) (n : Nat) : args.number * n = (args.number - 1) * n + n := by
  rw [← Nat.succ_mul, Nat.succ_eq_add_one, Nat.sub_add_cancel (number_pos args)]

/-- A page without `Next` is the last of the pages, or one behind them. -/
theorem last_number {before : Option View} {args : IndexArgs} {p : IndexPage}
    (h : Index c before args p) (hnext : p.next = none) :
    pageCount (c.countDiscs args.filter) ((args.session before).getD .covers).perPage ≤
      args.number := by
  obtain ⟨discs, hlist, rfl⟩ := h
  have hper := perPage_pos ((args.session before).getD .covers)
  have hpos := number_pos args
  unfold IndexPage.next at hnext
  split at hnext
  next => cases hnext
  next hoffered =>
    by_cases hdiscs : discs = []
    · have hlength := hlist.length_eq hpos
      have hcount : c.countDiscs args.filter = (c.matching args.filter).length := rfl
      rw [hdiscs, List.length_nil] at hlength
      have hbehind : c.countDiscs args.filter ≤
          (args.number - 1) * ((args.session before).getD .covers).perPage := by
        rw [hcount]
        omega
      refine Nat.max_le.mpr ⟨hpos, Nat.lt_succ_iff.mp ((Nat.div_lt_iff_lt_mul hper).mpr ?_)⟩
      rw [Nat.succ_mul, number_mul]
      omega
    · refine Nat.le_of_not_lt fun hlt => hoffered ⟨hdiscs, ?_, hlt⟩
      exact Nat.lt_of_le_of_lt hpos hlt

/-- There the listing ends. -/
theorem last_length {before : Option View} {args : IndexArgs} {p : IndexPage}
    (h : Index c before args p) (hnext : p.next = none) :
    (c.matching args.filter).length -
        (args.number - 1) * ((args.session before).getD .covers).perPage ≤
      ((args.session before).getD .covers).perPage := by
  have hpages := le_pageCount_mul (c.countDiscs args.filter)
    (perPage_pos ((args.session before).getD .covers))
  have hmul := Nat.mul_le_mul_right ((args.session before).getD .covers).perPage
    (last_number h hnext)
  rw [number_mul] at hmul
  have hcount : c.countDiscs args.filter = (c.matching args.filter).length := rfl
  omega

/-- **The walk from any page on** shows what is left of the listing, in its order. -/
theorem walk_keys (key : Disc → κ) {before : Option View} {args : IndexArgs} {ps : List IndexPage}
    (hw : Walk c before args ps)
    (hkey : ∀ page discs, 1 ≤ page → c.ListDiscs page ((args.session before).getD .covers).perPage
      args.filter args.ordering discs → Paging.Page key (c.matching args.filter)
        ((args.session before).getD .covers).perPage (page - 1) discs) :
    (ps.flatMap IndexPage.discs).map key = (Paging.keys key (c.matching args.filter)).drop
      ((args.number - 1) * ((args.session before).getD .covers).perPage) := by
  induction hw with
  | @last before args p h hnext =>
    have hlast := last_length h hnext
    obtain ⟨discs, hlist, rfl⟩ := h
    have hpage := (hkey _ _ (number_pos args) hlist).map_key
    rw [List.flatMap_singleton]
    refine hpage.trans (List.take_of_length_le ?_)
    rw [List.length_drop, Paging.length_keys]
    exact hlast
  | @more before args args' p ps h hnext hrest ih =>
    obtain ⟨discs, hlist, rfl⟩ := h
    obtain ⟨hfilter, hordering, hsession, hnumber⟩ := next_reads hnext
    rw [hfilter, hordering, hsession, hnumber] at ih
    have hpage := (hkey _ _ (number_pos args) hlist).map_key
    rw [List.flatMap_cons, List.map_append, ih hkey]
    show discs.map key ++ _ = _
    rw [hpage, Nat.add_sub_cancel]
    generalize ((args.session before).getD .covers).perPage = n
    unfold Paging.window
    rw [number_mul, ← List.drop_drop, List.take_append_drop]

/-- What every page of a walk has in common. -/
theorem walk_pages {before : Option View} {args : IndexArgs} {ps : List IndexPage}
    (hw : Walk c before args ps) : ∀ p ∈ ps, p.total = c.countDiscs args.filter ∧
      p.pages = pageCount (c.countDiscs args.filter) ((args.session before).getD .covers).perPage ∧
        ∀ d ∈ p.discs, d ∈ c.matching args.filter := by
  have hpage : ∀ {before args p}, Index c before args p → p.total = c.countDiscs args.filter ∧
      p.pages = pageCount (c.countDiscs args.filter) ((args.session before).getD .covers).perPage ∧
        ∀ d ∈ p.discs, d ∈ c.matching args.filter := by
    rintro before args p ⟨discs, hlist, rfl⟩
    refine ⟨rfl, rfl, fun d hd => ?_⟩
    unfold Catalog.ListDiscs at hlist
    split at hlist
    · exact hlist.mem hd
    · exact hlist.mem hd
  induction hw with
  | last h hnext =>
    intro p hp
    obtain rfl := List.mem_singleton.mp hp
    exact hpage h
  | more h hnext hrest ih =>
    intro p hp
    rcases List.mem_cons.mp hp with rfl | hrest
    · exact hpage h
    · obtain ⟨discs, -, rfl⟩ := h
      obtain ⟨hfilter, -, hsession, -⟩ := next_reads hnext
      rw [hfilter, hsession] at ih
      exact ih p hrest

theorem exists_index (c : Catalog) (before : Option View) (args : IndexArgs) :
    ∃ discs, Index c before args (indexPage c before args discs) := by
  have hlist : ∀ page perPage f order, ∃ discs, c.ListDiscs page perPage f order discs := by
    intro page perPage f order
    unfold Catalog.ListDiscs
    split
    · exact ⟨_, _, Paging.sorted_insertionSort _ _, rfl⟩
    · exact ⟨_, _, Paging.sorted_insertionSort _ _, rfl⟩
  obtain ⟨discs, hdiscs⟩ := hlist _ _ _ _
  exact ⟨discs, discs, hdiscs, rfl⟩

/-- Whatever page has been read, the walk comes to an end from there. -/
theorem exists_walk {before : Option View} {args : IndexArgs} {p : IndexPage}
    (h : Index c before args p) : ∃ ps, Walk c before args (p :: ps) := by
  -- the pages that are left
  induction hleft : pageCount (c.countDiscs args.filter) ((args.session before).getD .covers).perPage -
    args.number using Nat.strong_induction_on generalizing before args p with
  | _ left ih =>
    cases hnext : p.next with
    | none => exact ⟨[], .last h hnext⟩
    | some args' =>
      obtain ⟨discs, hlist, rfl⟩ := h
      obtain ⟨hfilter, -, hsession, hnumber⟩ := next_reads hnext
      have hmore := (next_eq hnext).2
      have hfewer : pageCount (c.countDiscs args'.filter)
          ((args'.session (args.session before)).getD .covers).perPage - args'.number < left := by
        rw [hfilter, hsession, hnumber]
        omega
      obtain ⟨discs', hindex⟩ := exists_index c (args.session before) args'
      obtain ⟨ps, hps⟩ := ih _ hfewer hindex rfl
      exact ⟨_, .more ⟨discs, hlist, rfl⟩ hnext hps⟩

/-- A walk reads every page that is left. -/
theorem walk_length {before : Option View} {args : IndexArgs} {ps : List IndexPage}
    (hw : Walk c before args ps) (hwithin : args.number ≤
      pageCount (c.countDiscs args.filter) ((args.session before).getD .covers).perPage) :
    ps.length + args.number =
      pageCount (c.countDiscs args.filter) ((args.session before).getD .covers).perPage + 1 := by
  induction hw with
  | last h hnext =>
    have hlast := last_number h hnext
    rw [List.length_singleton]
    omega
  | more h hnext hrest ih =>
    obtain ⟨discs, -, rfl⟩ := h
    obtain ⟨hfilter, -, hsession, hnumber⟩ := next_reads hnext
    have hmore := (next_eq hnext).2
    rw [hfilter, hsession, hnumber] at ih
    have hrest := ih hmore
    rw [List.length_cons]
    omega

/-- **Following `Next` from the first page** comes to an end, whatever pages it has led to, and shows
the listing that the first page names: every page counts the same discs and as many pages as are
read, the slots or the titles come in order, each as often as a disc has it, and sorted by slot every
disc is shown exactly once. -/
theorem walk_shows (hc : c.Keyed) (before : Option View) {args : IndexArgs}
    (hfirst : args.number = 1) :
    (∃ p, Index c before args p) ∧
      (∀ p, Index c before args p → ∃ ps, Walk c before args (p :: ps)) ∧
      ∀ ps, Walk c before args ps →
        (∀ p ∈ ps, p.total = c.countDiscs args.filter ∧ p.pages = ps.length) ∧
        (args.ordering = "title" → (ps.flatMap IndexPage.discs).map Catalog.nocase =
          Paging.keys Catalog.nocase (c.matching args.filter)) ∧
        (args.ordering ≠ "title" → (ps.flatMap IndexPage.discs).map Disc.slot =
          Paging.keys Disc.slot (c.matching args.filter) ∧
            (ps.flatMap IndexPage.discs).Perm (c.matching args.filter)) := by
  obtain ⟨discs, hindex⟩ := exists_index c before args
  refine ⟨⟨_, hindex⟩, fun p hp => exists_walk hp, fun ps hw => ?_⟩
  have hpages := walk_pages hw
  have hlength := walk_length hw (hfirst ▸ Nat.le_max_left 1 _)
  refine ⟨fun p hp => ⟨(hpages p hp).1, ?_⟩, fun htitle => ?_, fun hslot => ?_⟩
  · rw [(hpages p hp).2.1]
    omega
  · have hkeys := walk_keys Catalog.nocase hw fun page discs hpage hlist => by
      unfold Catalog.ListDiscs at hlist
      rwa [if_pos htitle, Nat.max_eq_left hpage] at hlist
    rwa [hfirst, Nat.sub_self, Nat.zero_mul, List.drop_zero] at hkeys
  · have hkeys := walk_keys Disc.slot hw fun page discs hpage hlist => by
      unfold Catalog.ListDiscs at hlist
      rwa [if_neg hslot, Nat.max_eq_left hpage] at hlist
    rw [hfirst, Nat.sub_self, Nat.zero_mul, List.drop_zero] at hkeys
    refine ⟨hkeys, ?_⟩
    have hslots : ((ps.flatMap IndexPage.discs).map Disc.slot).Perm
        ((c.matching args.filter).map Disc.slot) := hkeys ▸ List.perm_insertionSort _ _
    have hnodup := List.Nodup.of_map _ (hslots.nodup_iff.mpr (hc.matching_slots args.filter))
    have hsubset : ps.flatMap IndexPage.discs ⊆ c.matching args.filter := by
      intro d hd
      obtain ⟨p, hp, hd⟩ := List.mem_flatMap.mp hd
      exact (hpages p hp).2.2 d hd
    refine (List.subperm_of_subset hnodup hsubset).perm_of_length_le ?_
    have hlength := hslots.length_eq
    rw [List.length_map, List.length_map] at hlength
    exact hlength.ge

/-- The front page, by title. -/
def byTitle : IndexArgs := { order := some "title" }

/-- The titles of the box set: which disc stands where is not determined. -/
theorem walk_shows_boxSet : (∃ p, Index Catalog.boxSet none byTitle p) ∧
    (∀ p, Index Catalog.boxSet none byTitle p → ∃ ps, Walk Catalog.boxSet none byTitle (p :: ps)) ∧
    ∀ ps, Walk Catalog.boxSet none byTitle ps →
      (∀ p ∈ ps, p.total = Catalog.boxSet.countDiscs byTitle.filter ∧ p.pages = ps.length) ∧
        (byTitle.ordering = "title" → (ps.flatMap IndexPage.discs).map Catalog.nocase =
          Paging.keys Catalog.nocase (Catalog.boxSet.matching byTitle.filter)) ∧
        (byTitle.ordering ≠ "title" → (ps.flatMap IndexPage.discs).map Disc.slot =
          Paging.keys Disc.slot (Catalog.boxSet.matching byTitle.filter) ∧
            (ps.flatMap IndexPage.discs).Perm (Catalog.boxSet.matching byTitle.filter)) :=
  walk_shows (by decide) none rfl

end Walk

/-! ## The chips -/

/-- Every row is counted once: by its word, or for having none. -/
theorem counts_sum (f : Disc → Option String) {words : List String} (hwords : words.Nodup)
    (discs : List Disc) (h : ∀ d ∈ discs, ∀ k, f d = some k → k ∈ words) :
    (words.map fun k => discs.countP fun d => f d = some k).sum + discs.countP (fun d => f d = none) =
      discs.length := by
  induction discs with
  | nil => simp
  | cons d discs ih =>
    have hrest := ih fun d hd => h d (List.mem_cons_of_mem _ hd)
    simp only [List.countP_cons, List.length_cons]
    cases hd : f d with
    | none =>
      simp only [reduceCtorEq, decide_false, Bool.false_eq_true, if_false, Nat.add_zero, decide_true, if_true]
      omega
    | some k =>
      have hk : k ∈ words := h d List.mem_cons_self k hd
      have hone : (words.map fun j => if decide (some k = some j) = true then 1 else 0).sum = 1 := by
        rw [← List.sum_toFinset _ hwords]
        simp only [Option.some.injEq, decide_eq_true_eq]
        rw [Finset.sum_ite_eq, if_pos (List.mem_toFinset.mpr hk)]
      rw [List.sum_map_add, hone]
      simp only [reduceCtorEq, decide_false, Bool.false_eq_true, if_false, Nat.add_zero]
      omega

section Chips

variable {c : Catalog} {before before' : Option View} {args : IndexArgs} {p p' : IndexPage}

/-- A search and a status only narrow what a category and a console select. -/
theorem countDiscs_narrows (c : Catalog) (f : Filter) :
    c.countDiscs f ≤ c.countDiscs { category := f.category, platform := f.platform } ∧
      (given f.query = none → given f.status = none →
        c.countDiscs f = c.countDiscs { category := f.category, platform := f.platform }) := by
  unfold Catalog.countDiscs Catalog.matching
  rw [← List.countP_eq_length_filter, ← List.countP_eq_length_filter]
  refine ⟨List.countP_mono_left fun d _ hd => ?_, fun hquery hstatus => List.countP_congr fun d _ => ?_⟩
  · unfold Filter.where_ at hd ⊢
    simp only [Bool.and_eq_true] at hd ⊢
    exact ⟨⟨⟨rfl, rfl⟩, hd.1.2⟩, hd.2⟩
  · unfold Filter.where_
    rw [hquery, hstatus]
    rfl

theorem given_word {k : String} (hk : k ≠ "") : given (some k) = some k := by
  simp [given, hk]

theorem countDiscs_category (c : Catalog) {k : String} (hk : k ≠ "") :
    c.countDiscs { category := some k } = c.categoryCounts k := by
  unfold Catalog.countDiscs Catalog.matching Catalog.categoryCounts
  rw [← List.countP_eq_length_filter]
  refine List.countP_congr fun d _ => ?_
  unfold Filter.where_
  rw [given_word hk]
  simp [given]

theorem countDiscs_platform (c : Catalog) {k : String} (hk : k ≠ "") :
    c.countDiscs { category := some Taxonomy.games, platform := some k } = c.platformCounts k := by
  unfold Catalog.countDiscs Catalog.matching Catalog.platformCounts
  rw [← List.countP_eq_length_filter]
  refine List.countP_congr fun d _ => ?_
  unfold Filter.where_
  rw [given_word hk, given_word (by decide)]
  simp [given]

/-- Where a link leads that names a category and a console in their own words. -/
theorem link_leads {page : Option Int} {category platform : Option String}
    (hcategory : Taxonomy.category category = category)
    (hplatform : Taxonomy.platform category platform = platform) (h : Index c before args p)
    (h' : Index c before' (p.link page category platform) p') :
    p'.category = category ∧ p'.platform = platform ∧
      p'.total ≤ c.countDiscs { category, platform } ∧
      (p.query = "" → p.status = none → p'.total = c.countDiscs { category, platform }) := by
  obtain ⟨discs, -, rfl⟩ := h
  obtain ⟨discs', -, rfl⟩ := h'
  have hfilter := @link_filter c before args discs page _ _ hcategory hplatform
  obtain ⟨hle, heq⟩ := countDiscs_narrows c ⟨args.filter.query, args.filter.status, category, platform⟩
  have htotal : c.countDiscs ((indexPage c before args discs).link page category platform).filter =
      c.countDiscs ⟨args.filter.query, args.filter.status, category, platform⟩ := by rw [hfilter]
  have hplatformOf : Taxonomy.platform (Taxonomy.category category) platform = platform := by
    rw [hcategory, hplatform]
  refine ⟨hcategory, hplatformOf, htotal.trans_le hle, fun hquery hstatus => htotal.trans (heq ?_ ?_)⟩
  · have hquery : args.query = "" := hquery
    unfold IndexArgs.filter
    dsimp only
    rw [hquery]
    decide
  · unfold IndexArgs.filter
    exact (given_given _).trans hstatus

/-- **The counts on the chips are those of the pages behind them**, or more where a search or a
status narrows these; and the categories and the consoles count every disc once. -/
theorem chips_agree (hc : c.Sound) (h : Index c before args p) :
    (∀ k ∈ Taxonomy.categories, ∀ before' p', Index c before' (p.categoryChip k) p' →
      p'.category = some k ∧ p'.platform = none ∧ p'.total ≤ p.categoryCounts k ∧
        (p.query = "" → p.status = none → p'.total = p.categoryCounts k)) ∧
    (p.category = some Taxonomy.games → ∀ k ∈ Taxonomy.platforms, ∀ before' p',
      Index c before' (p.platformChip k) p' →
        p'.category = some Taxonomy.games ∧ p'.platform = some k ∧ p'.total ≤ p.platformCounts k ∧
          (p.query = "" → p.status = none → p'.total = p.platformCounts k)) ∧
    (Taxonomy.categories.map p.categoryCounts).sum + c.discs.countP (fun d => d.category = none) =
      p.stats.total ∧
    (Taxonomy.platforms.map p.platformCounts).sum +
        c.discs.countP (fun d => d.category = some Taxonomy.games ∧ d.platform = none) =
      p.categoryCounts Taxonomy.games := by
  have hcategories : ∀ k ∈ Taxonomy.categories, k ≠ "" := by decide
  have hplatforms : ∀ k ∈ Taxonomy.platforms, k ≠ "" := by decide
  have hshown : p.categoryCounts = c.categoryCounts ∧ p.platformCounts = c.platformCounts ∧
      p.stats = c.stats := by
    obtain ⟨discs, -, rfl⟩ := h
    exact ⟨rfl, rfl, rfl⟩
  rw [hshown.1, hshown.2.1, hshown.2.2]
  refine ⟨fun k hk before' p' h' => ?_, fun hgames k hk before' p' h' => ?_, ?_, ?_⟩
  · have hplatform : Taxonomy.platform (some k) none = none := by
      unfold Taxonomy.platform
      split
      · exact Taxonomy.match_none (by decide)
      · rfl
    rw [← countDiscs_category c (hcategories k hk)]
    exact link_leads (Taxonomy.match_self (by decide) (by decide) hk) hplatform h h'
  · have hplatform : Taxonomy.platform (some Taxonomy.games) (some k) = some k := by
      unfold Taxonomy.platform
      rw [if_pos rfl]
      exact Taxonomy.match_self (by decide) (by decide) hk
    unfold IndexPage.platformChip at h'
    rw [hgames] at h'
    rw [← countDiscs_platform c (hplatforms k hk)]
    exact link_leads (Taxonomy.match_self (by decide) (by decide) (by decide)) hplatform h h'
  · exact counts_sum Disc.category (by decide) c.discs fun d hd => (hc.rows d hd).category
  · have hgames := counts_sum Disc.platform (show Taxonomy.platforms.Nodup by decide)
      (c.discs.filter fun d => d.category = some Taxonomy.games) fun d hd k hk =>
        ((hc.rows d (List.mem_of_mem_filter hd)).platform k hk).2
    simp only [List.countP_filter, ← List.countP_eq_length_filter] at hgames
    have hswap : ∀ q : Option String, (c.discs.countP fun d =>
        decide (d.platform = q) && decide (d.category = some Taxonomy.games)) =
          c.discs.countP fun d => d.category = some Taxonomy.games ∧ d.platform = q := fun q =>
      List.countP_congr fun d _ => by simp [and_comm]
    simp only [hswap] at hgames
    exact hgames

/-- A game and a film. -/
def gameAndFilm : Catalog where
  discs := [⟨1, 7, "Okami", none, some Taxonomy.games, some "Wii", none, none, .stored, none, 0, 0⟩,
    ⟨2, 8, "Playtime", none, some "Movies", none, none, none, .stored, none, 0, 0⟩]
  events := []

theorem gameAndFilm_sound : gameAndFilm.Sound where
  ids := by decide
  slots := by decide
  rows d hd := by
    rcases List.mem_cons.mp hd with rfl | hd
    · exact ⟨by decide, by decide, by decide, fun p hp => ⟨rfl, Option.some.inj hp ▸ by decide⟩,
        by decide⟩
    · obtain rfl := List.mem_singleton.mp hd
      exact ⟨by decide, by decide, by decide, nofun, by decide⟩
  refs _ he := nomatch he

/-- The chip of the games leads to the game, and the chip of its console there to the game too. -/
theorem chips_agree_gameAndFilm : ∃ p p' p'', Index gameAndFilm none {} p ∧
    Index gameAndFilm none (p.categoryChip Taxonomy.games) p' ∧
    Index gameAndFilm none (p'.platformChip "Wii") p'' ∧
    (p'.category = some Taxonomy.games ∧ p'.total = 1) ∧
    (p''.category = some Taxonomy.games ∧ p''.platform = some "Wii" ∧ p''.total = 1) ∧
    (Taxonomy.categories.map p.categoryCounts).sum +
        gameAndFilm.discs.countP (fun d => d.category = none) = p.stats.total ∧
    (Taxonomy.platforms.map p.platformCounts).sum + gameAndFilm.discs.countP (fun d =>
        d.category = some Taxonomy.games ∧ d.platform = none) = p.categoryCounts Taxonomy.games := by
  obtain ⟨discs, hindex⟩ := exists_index gameAndFilm none {}
  obtain ⟨discs', hindex'⟩ := exists_index gameAndFilm none
    ((indexPage gameAndFilm none {} discs).categoryChip Taxonomy.games)
  obtain ⟨discs'', hindex''⟩ := exists_index gameAndFilm none
    ((indexPage gameAndFilm none _ discs').platformChip "Wii")
  have hfront := chips_agree gameAndFilm_sound hindex
  obtain ⟨hcategory, -, -, htotal⟩ := hfront.1 Taxonomy.games (by decide) none _ hindex'
  have hgames := (chips_agree gameAndFilm_sound hindex').2.1 hcategory "Wii" (by decide) none _ hindex''
  exact ⟨_, _, _, hindex, hindex', hindex'', ⟨hcategory, htotal rfl rfl⟩,
    ⟨hgames.1, hgames.2.1, hgames.2.2.2 rfl rfl⟩, hfront.2.2⟩

end Chips

end StakkaWeb
