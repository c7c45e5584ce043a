import StakkaWeb.Laws.Covers
import StakkaWeb.Laws.Fetch

/-!
# Art that cannot be used

`ingest` raises an `ArtError` for whatever its own tests find. A library that raises does so in the
midst of it: only the resolver's `gaierror` and what comes of decoding are caught. `Trips` lists the
calls without a handler, and `graceful_iff` says that an edit is answered when none of them raises,
and only then.
-/

set_option autoImplicit false

namespace StakkaWeb

open Lib Lib.Prog

namespace Supply

variable (s : Supply)

/-- A step of `store` after the decoding raises. -/
def Breaks : Prop :=
  (∃ exc, s.flatten = .error exc) ∨ (∃ exc, s.makedirs = .error exc) ∨
    ∃ suffix exc left, s.save suffix = .fails exc left

/-- The URL is fetched. -/
def Pasted (url : String) : Prop :=
  s.upload.filter (·.1 ≠ "") = none ∧ ∃ text, given s.url = some text ∧ url = Taxonomy.strip text

/-- Some bytes come to be stored: an upload that is not too large, or an image from the web. -/
def Feeds (web : Web) : Prop :=
  ∃ data, data ≠ [] ∧
    ((∃ name, s.upload.filter (·.1 ≠ "") = some (name, data) ∧ data.length ≤ maxBytes) ∨
      ∃ url, s.Pasted url ∧ ∃ k at_ resp, web.Chain url k at_ ∧ web.Brings k at_ data resp)

/-- A call that no handler is around raises: on the way along the redirects, or in `store`. -/
def Trips (web : Web) : Prop :=
  (∃ url, s.Pasted url ∧ ∃ k at_ exc, web.Chain url k at_ ∧ web.Stumbles k at_ exc) ∨
    s.Feeds web ∧ s.decodes = true ∧ s.Breaks

/-- With these servers beneath. -/
def onWeb (web : Web) : Supply := { s with fetch := web.fetched }

/-! ## `ingest` -/

/-- How `store` ends. -/
inductive StoreEnds : Outcome Exc (Except String String) → Prop
  | raised {exc : Exc} (hdecodes : s.decodes = true) (h : s.Breaks) : StoreEnds (.raise exc)
  | answered {r : Except String String} (h : ¬ (s.decodes = true ∧ s.Breaks)) : StoreEnds (.ok r)

/-- How `ingest` ends, as far as the data it is given goes. -/
def Raises : Prop :=
  (∃ exc, s.data = .error exc) ∨
    (∃ b bs, s.data = .ok (.ok (b :: bs))) ∧ s.decodes = true ∧ s.Breaks

inductive IngestEnds : Outcome Exc (Except String (Option String)) → Prop
  | raised {exc : Exc} (h : s.Raises) : IngestEnds (.raise exc)
  | answered {r : Except String (Option String)} (h : ¬ s.Raises) : IngestEnds (.ok r)

variable {s}

theorem saveJpeg_comes (stem : String) {suffix : Suffix} {jpeg : Bytes}
    (h : s.save suffix = .ok jpeg) : Comes (saveJpeg s stem suffix) (.ok ()) := by
  unfold saveJpeg
  rw [h]
  exact fun _ _ => rfl

theorem saveJpeg_comes_fails (stem : String) {suffix : Suffix} {exc : Exc} {left : Option Bytes}
    (h : s.save suffix = .fails exc left) : Comes (saveJpeg s stem suffix) (.raise exc) := by
  unfold saveJpeg
  rw [h]
  exact fun _ _ => rfl

theorem removeArt_comes (stem : Option String) : Comes (removeArt s stem) (.ok ()) := by
  have remove (stem : String) (suffix : Suffix) : Comes (removeFile s stem suffix) (.ok ()) := by
    intro n w
    unfold removeFile
    rw [Prog.bind_of_ok (Prog.gets_run _ n w)]
    unfold Prog.when
    split <;> rfl
  unfold removeArt
  cases given stem with
  | none => exact comes_pure ()
  | some stem => exact (remove stem .thumb).bind (remove stem .full)

theorem storeArt_ends : ∃ o, s.StoreEnds o ∧ Comes (storeArt s) o := by
  unfold storeArt
  cases hdecodes : s.decodes with
  | false => exact ⟨_, .answered fun h => (by rw [hdecodes] at h; cases h.1), comes_pure _⟩
  | true =>
    rw [if_neg (by decide)]
    cases hflatten : s.flatten with
    | error exc =>
      exact ⟨_, .raised hdecodes (.inl ⟨exc, hflatten⟩), (comes_raise exc).bind_raise⟩
    | ok =>
      cases hdirs : s.makedirs with
      | error exc =>
        exact ⟨_, .raised hdecodes (.inr (.inl ⟨exc, hdirs⟩)),
          (comes_pure ()).bind (comes_raise exc).bind_raise⟩
      | ok =>
        cases hthumb : s.save .thumb with
        | fails exc left =>
          exact ⟨_, .raised hdecodes (.inr (.inr ⟨.thumb, exc, left, hthumb⟩)),
            (comes_pure ()).bind ((comes_pure ()).bind
              (saveJpeg_comes_fails s.fresh hthumb).bind_raise)⟩
        | ok jpeg =>
          cases hfull : s.save .full with
          | fails exc left =>
            exact ⟨_, .raised hdecodes (.inr (.inr ⟨.full, exc, left, hfull⟩)),
              (comes_pure ()).bind ((comes_pure ()).bind ((saveJpeg_comes s.fresh hthumb).bind
                (saveJpeg_comes_fails s.fresh hfull).bind_raise))⟩
          | ok jpeg' =>
            refine ⟨_, .answered ?_, (comes_pure ()).bind ((comes_pure ()).bind
              ((saveJpeg_comes s.fresh hthumb).bind ((saveJpeg_comes s.fresh hfull).bind
                (comes_pure _))))⟩
            rintro ⟨-, ⟨exc, h⟩ | ⟨exc, h⟩ | ⟨suffix, exc, left, h⟩⟩
            · rw [hflatten] at h
              cases h
            · rw [hdirs] at h
              cases h
            · cases suffix with
              | thumb =>
                rw [hthumb] at h
                cases h
              | full =>
                rw [hfull] at h
                cases h

/-- `ingest` ends the same way from every state. -/
theorem ingestArt_ends (replacing : Option String) :
    ∃ o, s.IngestEnds o ∧ Comes (ingestArt s replacing) o := by
  unfold ingestArt
  cases hdata : s.data with
  | error exc => exact ⟨_, .raised (.inl ⟨exc, hdata⟩), (comes_raise exc).bind_raise⟩
  | ok data =>
    rcases data with msg | _ | ⟨b, bs⟩
    · refine ⟨_, .answered ?_, (comes_pure _).bind (comes_pure _)⟩
      rintro (⟨exc, h⟩ | ⟨⟨b, bs, h⟩, -⟩) <;> rw [hdata] at h <;> cases h
    · refine ⟨_, .answered ?_, (comes_pure _).bind (comes_pure _)⟩
      rintro (⟨exc, h⟩ | ⟨⟨b, bs, h⟩, -⟩) <;> rw [hdata] at h <;> cases h
    · obtain ⟨o, hends, hstore⟩ := storeArt_ends (s := s)
      cases hends with
      | raised hdecodes hbreaks =>
        exact ⟨_, .raised (.inr ⟨⟨b, bs, hdata⟩, hdecodes, hbreaks⟩),
          (comes_pure _).bind hstore.bind_raise⟩
      | @answered r hnot =>
        have hraises : ¬ s.Raises := by
          rintro (⟨exc, h⟩ | ⟨-, h⟩)
          · rw [hdata] at h
            cases h
          · exact hnot h
        cases r with
        | error msg => exact ⟨_, .answered hraises, (comes_pure _).bind (hstore.bind (comes_pure _))⟩
        | ok stem =>
          exact ⟨_, .answered hraises, (comes_pure _).bind
            (hstore.bind ((removeArt_comes replacing).bind (comes_pure _)))⟩

/-! ### Where it raises -/

section OnWeb

variable {web : Web}

/-- Something in the form is an upload. -/
theorem data_of_upload {name : String} {content : Bytes}
    (h : s.upload.filter (·.1 ≠ "") = some (name, content)) : s.data =
      if maxBytes < content.length then .ok (.error "That file is larger than 8 MB.")
      else .ok (.ok content) := by
  have htake : maxBytes < (content.take (maxBytes + 1)).length ↔ maxBytes < content.length := by
    rw [List.length_take]
    omega
  unfold data
  rw [h]
  dsimp only
  by_cases hsize : maxBytes < content.length
  · rw [if_pos (htake.mpr hsize), if_pos hsize]
  · rw [if_neg fun hlt => hsize (htake.mp hlt), if_neg hsize,
      List.take_of_length_le (Nat.le_succ_of_le (Nat.le_of_not_lt hsize))]

theorem data_of_url {text : String} (h : s.upload.filter (·.1 ≠ "") = none)
    (hurl : given s.url = some text) : s.data = s.fetch (Taxonomy.strip text) := by
  unfold data
  rw [h, hurl]

theorem data_of_nothing (h : s.upload.filter (·.1 ≠ "") = none) (hurl : given s.url = none) :
    s.data = .ok (.ok []) := by
  unfold data
  rw [h, hurl]

theorem data_error_iff : (∃ exc, (s.onWeb web).data = .error exc) ↔
    ∃ url, s.Pasted url ∧ ∃ k at_ exc, web.Chain url k at_ ∧ web.Stumbles k at_ exc := by
  constructor
  · rintro ⟨exc, h⟩
    cases hupload : s.upload.filter (·.1 ≠ "") with
    | some file =>
      rw [data_of_upload (s := s.onWeb web) hupload] at h
      split at h <;> cases h
    | none =>
      cases hurl : given s.url with
      | none =>
        rw [data_of_nothing (s := s.onWeb web) hupload hurl] at h
        cases h
      | some text =>
        rw [data_of_url (s := s.onWeb web) hupload hurl] at h
        obtain ⟨k, at_, hchain, hstumbles⟩ := fetched_error_iff.mp h
        exact ⟨_, ⟨hupload, text, hurl, rfl⟩, k, at_, exc, hchain, hstumbles⟩
  · rintro ⟨_, ⟨hupload, text, hurl, rfl⟩, k, at_, exc, hchain, hstumbles⟩
    rw [data_of_url (s := s.onWeb web) hupload hurl]
    exact ⟨exc, fetched_error_iff.mpr ⟨k, at_, hchain, hstumbles⟩⟩

theorem data_ok_iff : (∃ b bs, (s.onWeb web).data = .ok (.ok (b :: bs))) ↔ s.Feeds web := by
  constructor
  · rintro ⟨b, bs, h⟩
    refine ⟨b :: bs, nofun, ?_⟩
    cases hupload : s.upload.filter (·.1 ≠ "") with
    | some file =>
      obtain ⟨name, content⟩ := file
      rw [data_of_upload (s := s.onWeb web) hupload] at h
      split at h
      next => cases h
      next hsize =>
        obtain rfl := Except.ok.inj (Except.ok.inj h)
        exact .inl ⟨name, rfl, Nat.le_of_not_lt hsize⟩
    | none =>
      cases hurl : given s.url with
      | none =>
        rw [data_of_nothing (s := s.onWeb web) hupload hurl] at h
        cases h
      | some text =>
        rw [data_of_url (s := s.onWeb web) hupload hurl] at h
        exact .inr ⟨_, ⟨hupload, text, hurl, rfl⟩, (fetched_ok_iff (List.cons_ne_nil b bs)).mp h⟩
  · rintro ⟨data, hne, hsource⟩
    obtain ⟨b, bs, rfl⟩ := List.exists_cons_of_ne_nil hne
    refine ⟨b, bs, ?_⟩
    rcases hsource with ⟨name, hupload, hsize⟩ | ⟨_, ⟨hupload, text, hurl, rfl⟩, hbrings⟩
    · rw [data_of_upload (s := s.onWeb web) hupload, if_neg (Nat.not_lt.mpr hsize)]
    · rw [data_of_url (s := s.onWeb web) hupload hurl]
      exact (fetched_ok_iff hne).mpr hbrings

/-- `ingest` raises where a call does that no handler is around. -/
theorem raises_iff : (s.onWeb web).Raises ↔ s.Trips web := by
  unfold Raises Trips
  rw [data_error_iff, data_ok_iff]
  exact Iff.rfl

end OnWeb

end Supply

/-! ## `disc_edit` -/

section Edit

variable {s : Supply}

/-- Storing a cover leaves the database alone. -/
theorem ingestArt_conn (c : Conn) (replacing : Option String) :
    Keeps (fun w : World ArtDir => w.conn = c) (ingestArt s replacing) := by
  have set (stem : String) (suffix : Suffix) (content : Option Bytes) :
      Keeps (fun w : World ArtDir => w.conn = c) (setFile stem suffix content) :=
    Keeps.modify fun _ h => h
  have given_ {α : Type} (x : Except Exc α) :
      Keeps (fun w : World ArtDir => w.conn = c) (ofExcept x) := by
    cases x with
    | ok a => exact Keeps.pure a
    | error exc => exact Keeps.raise exc
  have save (suffix : Suffix) :
      Keeps (fun w : World ArtDir => w.conn = c) (saveJpeg s s.fresh suffix) := by
    unfold saveJpeg
    cases s.save suffix with
    | ok jpeg => exact set _ _ _
    | fails exc left => exact (set _ _ _).bind fun _ => Keeps.raise exc
  have remove (stem : String) (suffix : Suffix) :
      Keeps (fun w : World ArtDir => w.conn = c) (removeFile s stem suffix) :=
    (Keeps.gets _).bind fun _ => Keeps.when ((set _ _ _).bind fun _ => Keeps.modify fun _ h => h)
  unfold ingestArt
  refine (given_ _).bind fun data => ?_
  rcases data with msg | _ | ⟨b, bs⟩
  · exact Keeps.pure _
  · exact Keeps.pure _
  · refine Keeps.bind ?_ fun r => ?_
    · unfold storeArt
      exact Keeps.ite (Keeps.pure _) ((given_ _).bind fun _ => (given_ _).bind fun _ =>
        (save .thumb).bind fun _ => (save .full).bind fun _ => Keeps.pure _)
    · cases r with
      | error msg => exact Keeps.pure _
      | ok stem =>
        refine Keeps.bind ?_ fun _ => Keeps.pure _
        unfold removeArt
        cases given replacing with
        | none => exact Keeps.pure ()
        | some old => exact (remove old .thumb).bind fun _ => remove old .full

end Edit

namespace Edit

/-- Bad art is answered, whatever the form says besides. -/
structure Graceful (e : Edit) : Prop where
  /-- `ingest` returns a stem, returns `None` or raises an `ArtError`. -/
  ingest : ∀ replacing n w, ∃ r, (ingestArt e.supply replacing n w).1 = .ok r
  /-- An `ArtError` is answered with the form. -/
  form : ∀ disc msg, e.catalog.getDisc e.discId = some disc → formText e.texts.title ≠ none →
    e.faults 0 = false → Comes (ingestArt e.supply disc.artPath) (.ok (.error msg)) →
    e.run.1 = .ok .page
  /-- A server error is the database's. -/
  answers : ∀ exc, e.run.1 = .raise exc → ∃ k, e.faults k = true

variable {e : Edit}

/-- `ingest` on the way, when it comes to `r`. -/
theorem ingestArt_reading {r : Except String (Option String)} {replacing : Option String}
    (h : Comes (ingestArt e.supply replacing) (.ok r)) {R : Option Exc → World ArtDir → Prop}
    (n : Nat) : Triple (e.Reading n) (ingestArt e.supply replacing)
      (fun a w => a = r ∧ e.Reading n w) R := by
  intro m w hw
  have hconn := (ingestArt_conn (s := e.supply) w.conn replacing).run m rfl
  have hr := h m w
  generalize ingestArt e.supply replacing m w = q at hconn hr
  obtain ⟨o, w'⟩ := q
  obtain rfl : o = .ok r := hr
  refine ⟨rfl, ?_⟩
  have hsame : w'.conn = w.conn := hconn
  unfold Reading
  rw [hsame]
  exact hw

theorem getDisc_reading : Triple (e.Reading 0) (getDisc e.discId)
    (fun a w => a = e.catalog.getDisc e.discId ∧ e.Reading 1 w)
    (fun _ _ => e.faults 0 = true) :=
  (execute_ok_at fun c => (c.getDisc e.discId, c)).conseq (fun _ h => h)
    (fun _ _ h => ⟨h.2.1, h.2.2⟩) fun _ _ h => h.1

theorem start_reading : e.Reading 0 e.start := ⟨rfl, rfl, rfl, rfl, rfl⟩

/-- What a request for a disc does once the disc has been read. -/
theorem run_of_triple {Q : Answer → World ArtDir → Prop} {R : Option Exc → World ArtDir → Prop}
    (h : Triple (e.Reading 0) (discEditPost e.supply e.discId e.texts) Q R) :
    match e.run with
    | (.ok a, w) => Q a w
    | (.raise exc, w) => R (some exc) w
    | (.hang, w) => R none w := by
  have hrun := h 0 e.start start_reading
  unfold run
  generalize discEditPost e.supply e.discId e.texts 0 e.start = r at hrun ⊢
  rcases r with ⟨a | exc | _, w⟩ <;> exact hrun

/-- When `ingest` does not raise, only the database can. -/
theorem discEditPost_answers
    (h : ∀ replacing, ∃ r, Comes (ingestArt e.supply replacing) (.ok r)) :
    Triple (e.Reading 0) (discEditPost e.supply e.discId e.texts) (fun _ _ => True)
      (fun _ _ => ∃ k, e.faults k = true) := by
  unfold discEditPost
  refine (getDisc_reading.conseq (fun _ h => h) (fun _ _ h => h) fun _ _ h => ⟨0, h⟩).bind
    fun found => Triple.of_fact ?_
  rintro rfl
  cases e.catalog.getDisc e.discId with
  | none => exact Triple.pure fun _ _ => trivial
  | some disc =>
    cases htitle : formText e.texts.title with
    | none => exact Triple.pure fun _ _ => trivial
    | some title =>
      have htitled : formText e.texts.title ≠ none := by
        rw [htitle]
        exact nofun
      obtain ⟨r, hr⟩ := h disc.artPath
      refine (ingestArt_reading hr 1).bind fun art => Triple.of_fact ?_
      rintro rfl
      cases art with
      | error msg =>
        rw [form_error]
        exact Triple.pure fun _ _ => trivial
      | ok stem =>
        obtain ⟨fields, hfields, hne, hslot, -⟩ := form_fields htitled stem
        rw [hfields]
        refine Triple.of_each fun w₀ hw₀ => ?_
        refine ((updateDisc_leaves hne hslot w₀.io).conseq (fun w hw => ?_) (fun _ _ h => h)
          fun _ w hw => ?_).bind fun _ => Triple.pure fun _ _ => trivial
        · rw [hw]
          exact ⟨hw₀, rfl⟩
        · by_contra hnone
          have hworks (k : Nat) : e.faults k = false :=
            Bool.eq_false_iff.mpr fun hk => hnone ⟨k, hk⟩
          exact hw.1 ⟨hworks 1, hworks 2⟩

/-- An `ArtError` brings the form back. -/
theorem run_of_artError {disc : Disc} {msg : String}
    (hget : e.catalog.getDisc e.discId = some disc) (htitled : formText e.texts.title ≠ none)
    (h0 : e.faults 0 = false) (h : Comes (ingestArt e.supply disc.artPath) (.ok (.error msg))) :
    e.run.1 = .ok .page := by
  have hpost : Triple (e.Reading 0) (discEditPost e.supply e.discId e.texts)
      (fun a _ => a = .page) (fun _ _ => e.faults 0 = true) := by
    unfold discEditPost
    refine getDisc_reading.bind fun found => Triple.of_fact ?_
    rintro rfl
    rw [hget]
    obtain ⟨title, htitle⟩ := Option.ne_none_iff_exists'.mp htitled
    rw [htitle]
    refine (ingestArt_reading h 1).bind fun art => Triple.of_fact ?_
    rintro rfl
    rw [form_error]
    exact Triple.pure fun _ _ => rfl
  have hrun := run_of_triple hpost
  generalize e.run = r at hrun
  rcases r with ⟨a | exc | _, w⟩
  · exact congrArg Outcome.ok hrun
  · rw [h0] at hrun
    cases hrun
  · rw [h0] at hrun
    cases hrun

/-- The request, with these servers beneath. -/
def onWeb (e : Edit) (web : Web) : Edit := { e with supply := e.supply.onWeb web }

/-- **Bad art is answered exactly when no call raises that no handler is around.** -/
theorem graceful_iff (e : Edit) (web : Web) :
    (e.onWeb web).Graceful ↔ ¬ e.supply.Trips web := by
  rw [← Supply.raises_iff]
  constructor
  · intro h hraises
    obtain ⟨o, hends, hcomes⟩ := Supply.ingestArt_ends (s := e.supply.onWeb web) none
    obtain ⟨r, hr⟩ := h.ingest none 0 e.start
    cases hends with
    | raised => cases (hcomes 0 e.start).symm.trans hr
    | answered hnot => exact hnot hraises
  · intro hnot
    have hcomes (replacing : Option String) :
        ∃ r, Comes (ingestArt (e.onWeb web).supply replacing) (.ok r) := by
      obtain ⟨o, hends, hcomes⟩ := Supply.ingestArt_ends (s := e.supply.onWeb web) replacing
      cases hends with
      | raised h => exact absurd h hnot
      | @answered r => exact ⟨r, hcomes⟩
    refine ⟨fun replacing n w => ?_, fun disc msg => run_of_artError, fun exc hexc => ?_⟩
    · obtain ⟨r, hr⟩ := hcomes replacing
      exact ⟨r, hr n w⟩
    · have hrun := run_of_triple (discEditPost_answers hcomes)
      generalize (e.onWeb web).run = r at hrun hexc
      rcases r with ⟨a | exc' | _, w⟩
      · cases hexc
      · exact hrun
      · cases hexc

/-- A URL with half an IPv6 address is pasted into the form. -/
def pasted : Edit :=
  { lockedEdit with
    faults := fun _ => false
    supply := { lockedEdit.supply with upload := none, url := some "http://[" } }

/-- `urlparse` does not take it. -/
def brackets : Web :=
  { Web.single "cover.example" [] (.error (.osError "")) with
    urlparse := fun url =>
      if url = "http://[" then .error (.valueError "Invalid IPv6 URL")
      else .ok ⟨"http", some "cover.example"⟩ }

/-- The request ends in a server error. -/
theorem pasted_not_graceful :
    (pasted.onWeb brackets).run.1 = .raise (.valueError "Invalid IPv6 URL") ∧
      ¬ (pasted.onWeb brackets).Graceful := by
  have hraises : (ingestArt (pasted.onWeb brackets).supply none 0 (pasted.onWeb brackets).start).1 =
      .raise (.valueError "Invalid IPv6 URL") := by decide
  refine ⟨by decide, fun h => ?_⟩
  obtain ⟨r, hr⟩ := h.ingest none 0 (pasted.onWeb brackets).start
  cases hraises.symm.trans hr

end Edit

end StakkaWeb
