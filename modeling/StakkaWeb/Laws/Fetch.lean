import StakkaWeb.Laws.Public

/-!
# What a fetch does

`hop_cases` says once how a turn of the loop may end, with the state it leaves. From it: a turn has
no loop of its own and a redirect less to give, so that the fetch ends; every request follows the
lookup that has let its host through; and what is returned is the whole of an image.
-/

set_option autoImplicit false

namespace StakkaWeb

open Lib Lib.Prog

/-! ## A response -/

/-- The size guard against the whole body. -/
theorem gather_eq (broken : Option Exc) (chunks : List Bytes) (data : Bytes)
    (h : data.length ≤ maxBytes) : gather broken data chunks =
      if (data ++ chunks.flatten).length ≤ maxBytes then
        match broken with
        | none => .ok (data ++ chunks.flatten)
        | some exc => .error (.other exc)
      else .error (.artError "That image is larger than 8 MB.") := by
  induction chunks generalizing data with
  | nil => cases broken <;> simp [gather, h]
  | cons chunk chunks ih =>
    rw [gather, List.flatten_cons, ← List.append_assoc]
    by_cases hlt : maxBytes < (data ++ chunk).length
    · have hlong : ¬ (data ++ chunk ++ chunks.flatten).length ≤ maxBytes := by
        rw [List.length_append]
        omega
      rw [if_pos hlt, if_neg hlong]
    · rw [if_neg hlt, ih _ (Nat.le_of_not_lt hlt)]

section Download

variable {resp : Response}

theorem gather_whole : gather resp.broken [] resp.chunks =
    if resp.chunks.flatten.length ≤ maxBytes then
      match resp.broken with
      | none => .ok resp.chunks.flatten
      | some exc => .error (.other exc)
    else .error (.artError "That image is larger than 8 MB.") :=
  gather_eq resp.broken resp.chunks [] (Nat.zero_le _)

/-- How `download` ends. -/
inductive Downloaded (resp : Response) : Except Failure Bytes → Prop
  | refused (msg : String) (h : ¬ (resp.statusCode = 200 ∧ resp.isImage = true)) :
    Downloaded resp (.error (.artError msg))
  | tooLarge (h : maxBytes < resp.chunks.flatten.length) :
    Downloaded resp (.error (.artError "That image is larger than 8 MB."))
  | broken {exc : Exc} (hstatus : resp.statusCode = 200) (himage : resp.isImage = true)
    (hsize : resp.chunks.flatten.length ≤ maxBytes) (h : resp.broken = some exc) :
    Downloaded resp (.error (.other exc))
  | empty (h : resp.chunks.flatten = []) (hbroken : resp.broken = none) :
    Downloaded resp (.error (.artError "That URL returned an empty response."))
  | whole (hstatus : resp.statusCode = 200) (himage : resp.isImage = true)
    (hsize : resp.chunks.flatten ≠ [] ∧ resp.chunks.flatten.length ≤ maxBytes)
    (h : resp.broken = none) : Downloaded resp (.ok resp.chunks.flatten)

theorem download_cases : Downloaded resp (download resp) := by
  unfold download
  split
  next hstatus => exact .refused _ fun h => hstatus h.1
  next hstatus =>
    split
    next himage =>
      refine .refused _ fun h => ?_
      rw [h.2] at himage
      cases himage
    next himage =>
      have hok : resp.isImage = true := by simpa using himage
      rw [gather_whole]
      by_cases hsize : resp.chunks.flatten.length ≤ maxBytes
      · rw [if_pos hsize]
        cases hb : resp.broken with
        | some exc => exact .broken (not_not.mp hstatus) hok hsize hb
        | none =>
          cases hdata : resp.chunks.flatten with
          | nil => exact .empty hdata hb
          | cons b bs =>
            have hnonempty : resp.chunks.flatten ≠ [] := by
              rw [hdata]
              exact nofun
            have h := Downloaded.whole (not_not.mp hstatus) hok ⟨hnonempty, hsize⟩ hb
            rw [hdata] at h
            exact h
      · rw [if_neg hsize]
        exact .tooLarge (Nat.lt_of_not_le hsize)

theorem download_eq_of_image (hstatus : resp.statusCode = 200) (himage : resp.isImage = true) :
    download resp = match gather resp.broken [] resp.chunks with
      | .error failure => .error failure
      | .ok [] => .error (.artError "That URL returned an empty response.")
      | .ok data => .ok data := by
  unfold download
  rw [if_neg (not_not.mpr hstatus), himage]
  rfl

/-- An image that breaks in time. -/
theorem download_of_broken {exc : Exc} (hstatus : resp.statusCode = 200)
    (himage : resp.isImage = true) (hsize : resp.chunks.flatten.length ≤ maxBytes)
    (h : resp.broken = some exc) : download resp = .error (.other exc) := by
  rw [download_eq_of_image hstatus himage, gather_whole, if_pos hsize, h]

/-- An image that comes whole. -/
theorem download_of_whole (hstatus : resp.statusCode = 200) (himage : resp.isImage = true)
    (hsize : resp.chunks.flatten ≠ [] ∧ resp.chunks.flatten.length ≤ maxBytes)
    (h : resp.broken = none) : download resp = .ok resp.chunks.flatten := by
  rw [download_eq_of_image hstatus himage, gather_whole, if_pos hsize.2, h]
  cases hdata : resp.chunks.flatten with
  | nil => exact absurd hdata hsize.1
  | cons b bs => rfl

end Download

/-! ## One turn -/

section Turn

variable {web : Web} {s : Net}

/-- The state in which the reply to request `k` is looked at. -/
def Net.replied (s : Net) (host : String) (addrs : List Address) (reply : Except Exc Response) :
    Net :=
  { s with
    lookups := s.lookups + 1, requests := s.requests + 1,
    log := .requested s.url reply :: .asked host (.found addrs) :: s.log }

/-- A turn up to the lookup. -/
theorem hop_of_names {host : String} (h : web.Names s.url host) (n : Nat) :
    hop web n s = (checkPublic web host >>= fun _ => requestsGet web s.url >>= received) n s := by
  obtain ⟨parsed, hparsed, hscheme, hhost⟩ := h
  unfold hop
  rw [Prog.bind_of_ok (Prog.gets_run _ n s), hparsed]
  rw [Prog.bind_of_ok (show unhandled (.ok parsed) n s = (.ok parsed, s) from rfl)]
  rw [if_neg (not_not.mpr hscheme), hhost]

/-- A turn up to the reply. -/
theorem hop_of_replies {host : String} {addrs : List Address} (hnames : web.Names s.url host)
    (hfound : web.getaddrinfo s.lookups host = .found addrs) (hvet : vet addrs = .ok ()) (n : Nat) :
    hop web n s = (unhandled (web.get s.requests s.url) >>= received) n
      (s.replied host addrs (web.get s.requests s.url)) := by
  have hcheck : checkPublic web host n s = (.ok (), s.looked host (.found addrs)) := by
    rw [checkPublic_run, hfound, Lookup.verdict, hvet]
  rw [hop_of_names hnames, Prog.bind_of_ok hcheck]
  unfold requestsGet
  rw [Prog.bind_assoc, Prog.bind_of_ok (Prog.gets_run _ n _), Prog.bind_assoc,
    Prog.bind_of_ok (Prog.modify_run _ n _)]
  rfl

/-! ## What has been asked -/

/-- Every request follows a lookup that names only public addresses for the host of its URL, and the
URL has a scheme that is fetched. -/
def Web.Vetted (web : Web) (log : List NetEvent) : Prop :=
  ∀ newer url reply older, log = newer ++ .requested url reply :: older →
    ∃ host addrs older', older = .asked host (.found addrs) :: older' ∧ web.Names url host ∧
      ∀ addr ∈ addrs, addr.isLocal = false

theorem vetted_nil : web.Vetted [] := by
  intro newer url reply older h
  cases newer <;> cases h

theorem Web.Vetted.asked {log : List NetEvent} (h : web.Vetted log) (host : String)
    (answer : Lookup) : web.Vetted (.asked host answer :: log) := by
  intro newer url reply older heq
  cases newer with
  | nil => cases heq
  | cons event newer => exact h newer url reply older (List.cons.inj heq).2

theorem Web.Vetted.requested {log : List NetEvent} (h : web.Vetted log) {url host : String}
    {addrs : List Address} (hnames : web.Names url host) (hvet : vet addrs = .ok ())
    (reply : Except Exc Response) :
    web.Vetted (.requested url reply :: .asked host (.found addrs) :: log) := by
  intro newer url' reply' older heq
  cases newer with
  | nil =>
    obtain ⟨hevent, rfl⟩ := List.cons.inj heq
    obtain ⟨rfl, -⟩ := NetEvent.requested.inj hevent
    exact ⟨host, addrs, log, rfl, hnames, vet_ok_iff.mp hvet⟩
  | cons event newer => exact h.asked host _ newer url' reply' older (List.cons.inj heq).2

/-- At most one request more has been sent, and what had been vetted still is. -/
structure Net.Grown (web : Web) (s s' : Net) : Prop where
  requests : s'.requests ≤ s.requests + 1
  log : web.Vetted s.log → web.Vetted s'.log

theorem Net.looked_grown (host : String) (answer : Lookup) : s.Grown web (s.looked host answer) :=
  ⟨Nat.le_succ _, fun h => h.asked host answer⟩

theorem Net.replied_grown {host : String} {addrs : List Address} (hnames : web.Names s.url host)
    (hvet : vet addrs = .ok ()) (reply : Except Exc Response) :
    s.Grown web (s.replied host addrs reply) :=
  ⟨Nat.le_refl _, fun h => h.requested hnames hvet reply⟩

/-! ## How a turn ends -/

/-- What `received` does in a state. -/
inductive Received (resp : Response) (s : Net) : Outcome Failure (Option Bytes) × Net → Prop
  | stopped {msg : String} {s' : Net} (hrequests : s'.requests = s.requests)
    (hlog : s'.log = s.log) : Received resp s (.raise (.artError msg), s')
  | redirected {next : String} (hredirect : resp.redirects = true) (hseen : s.seen < maxRedirects)
    (hnext : given resp.location = some next) :
    Received resp s (.ok none, { s with url := next, seen := s.seen + 1 })
  | broken {exc : Exc} (hredirect : resp.redirects = false) (hstatus : resp.statusCode = 200)
    (himage : resp.isImage = true) (hsize : resp.chunks.flatten.length ≤ maxBytes)
    (h : resp.broken = some exc) : Received resp s (.raise (.other exc), s)
  | whole (hredirect : resp.redirects = false) (hstatus : resp.statusCode = 200)
    (himage : resp.isImage = true)
    (hsize : resp.chunks.flatten ≠ [] ∧ resp.chunks.flatten.length ≤ maxBytes)
    (h : resp.broken = none) : Received resp s (.ok (some resp.chunks.flatten), s)

theorem given_eq_some_iff {value : Option String} {text : String} :
    given value = some text ↔ value.getD "" = text ∧ text ≠ "" := by
  unfold given
  rw [Option.filter_eq_some_iff]
  cases value with
  | none =>
    constructor
    · rintro ⟨h, -⟩
      cases h
    · exact fun h => absurd h.1.symm h.2
  | some value => simp

theorem follow_run (resp : Response) (n : Nat) : follow resp n s =
    if maxRedirects < s.seen + 1 then
      (.raise (.artError "Too many redirects."), { s with seen := s.seen + 1 })
    else if resp.location.getD "" = "" then
      (.raise (.artError "Redirect without a destination."),
        { s with url := resp.location.getD "", seen := s.seen + 1 })
    else (.ok (), { s with url := resp.location.getD "", seen := s.seen + 1 }) := by
  unfold follow
  rw [Prog.bind_of_ok (Prog.modify_run _ n s), Prog.bind_of_ok (Prog.gets_run _ n _)]
  by_cases hseen : maxRedirects < s.seen + 1
  · rw [if_pos hseen, if_pos hseen]
    rfl
  · rw [if_neg hseen, if_neg hseen]
    rw [Prog.bind_of_ok (Prog.modify_run _ n _)]
    by_cases hurl : resp.location.getD "" = ""
    · rw [if_pos hurl, if_pos hurl]
      rfl
    · rw [if_neg hurl, if_neg hurl]
      rfl

/-- A redirect to a destination, while more are allowed. -/
theorem received_of_redirect {resp : Response} (hredirect : resp.redirects = true) {next : String}
    (hseen : s.seen < maxRedirects) (hnext : given resp.location = some next) (n : Nat) :
    received resp n s = (.ok none, { s with url := next, seen := s.seen + 1 }) := by
  obtain ⟨rfl, hne⟩ := given_eq_some_iff.mp hnext
  have hfollow := follow_run (s := s) resp n
  rw [if_neg (Nat.not_lt.mpr hseen), if_neg hne] at hfollow
  unfold received
  rw [if_pos hredirect, Prog.bind_of_ok hfollow]
  rfl

theorem received_of_download {resp : Response} (hredirect : resp.redirects = false) (n : Nat) :
    received resp n s = match download resp with
      | .ok data => (.ok (some data), s)
      | .error failure => (.raise failure, s) := by
  unfold received
  rw [hredirect]
  cases download resp <;> rfl

theorem received_cases (resp : Response) (n : Nat) : Received resp s (received resp n s) := by
  cases hr : resp.redirects with
  | false =>
    rw [received_of_download hr]
    generalize hd : download resp = d
    have hcases := @download_cases resp
    rw [hd] at hcases
    cases hcases with
    | refused | tooLarge | empty => exact .stopped rfl rfl
    | broken hstatus himage hsize h => exact .broken hr hstatus himage hsize h
    | whole hstatus himage hsize h => exact .whole hr hstatus himage hsize h
  | true =>
    by_cases hgoes : s.seen < maxRedirects ∧ resp.location.getD "" ≠ ""
    · have hnext := given_eq_some_iff.mpr ⟨rfl, hgoes.2⟩
      rw [received_of_redirect hr hgoes.1 hnext]
      exact .redirected hr hgoes.1 hnext
    · have hstops : ∃ msg s', follow resp n s = (.raise (.artError msg), s') ∧
          s'.requests = s.requests ∧ s'.log = s.log := by
        rw [follow_run]
        by_cases hseen : maxRedirects < s.seen + 1
        · exact ⟨_, _, if_pos hseen, rfl, rfl⟩
        · have hurl : resp.location.getD "" = "" := by
            by_contra hne
            exact hgoes ⟨Nat.le_of_not_lt hseen, hne⟩
          rw [if_neg hseen, if_pos hurl]
          exact ⟨_, _, rfl, rfl, rfl⟩
      obtain ⟨msg, s', hstop, hrequests, hlog⟩ := hstops
      unfold received
      rw [if_pos hr, Prog.bind_of_raise hstop]
      exact .stopped hrequests hlog

/-- How a turn ends, in a state whose next lookup and request both have number `k`. -/
inductive Hopped (web : Web) (k : Nat) (s : Net) : Outcome Failure (Option Bytes) × Net → Prop
  | refused {msg : String} {s' : Net} (hs : s.Grown web s') :
    Hopped web k s (.raise (.artError msg), s')
  | stumbled {exc : Exc} {s' : Net} (h : web.Stumbles k s.url exc) (hs : s.Grown web s') :
    Hopped web k s (.raise (.other exc), s')
  | redirected {next : String} {resp : Response} {s' : Net} (hreply : web.Replies k s.url (.ok resp))
    (hredirect : resp.redirects = true) (hseen : s.seen < maxRedirects)
    (hnext : given resp.location = some next) (hs : s.Grown web s') (hurl : s'.url = next)
    (hcount : s'.seen = s.seen + 1 ∧ s'.lookups = k + 1 ∧ s'.requests = k + 1) :
    Hopped web k s (.ok none, s')
  | brought {data : Bytes} {resp : Response} {s' : Net} (h : web.Brings k s.url data resp)
    (hs : s.Grown web s') (hlast : s'.log.head? = some (.requested s.url (.ok resp))) :
    Hopped web k s (.ok (some data), s')

/-- A turn from the lookup on. -/
theorem hop_cases_of_names {host : String} (hrequests : s.requests = s.lookups)
    (hnames : web.Names s.url host) (n : Nat) : Hopped web s.lookups s (hop web n s) := by
  cases hanswer : web.getaddrinfo s.lookups host with
  | gaierror =>
    have hhop : hop web n s = (.raise (.artError ("Could not resolve " ++ host)),
        s.looked host .gaierror) := by
      rw [hop_of_names hnames]
      exact Prog.bind_of_raise (by rw [checkPublic_run, hanswer, Lookup.verdict])
    rw [hhop]
    exact .refused (Net.looked_grown _ _)
  | raises exc =>
    have hhop : hop web n s = (.raise (.other exc), s.looked host (.raises exc)) := by
      rw [hop_of_names hnames]
      exact Prog.bind_of_raise (by rw [checkPublic_run, hanswer, Lookup.verdict])
    rw [hhop]
    exact .stumbled (.getaddrinfo hnames hanswer) (Net.looked_grown _ _)
  | found addrs =>
    cases hvet : vet addrs with
    | error msg =>
      have hhop : hop web n s = (.raise (.artError msg), s.looked host (.found addrs)) := by
        rw [hop_of_names hnames]
        exact Prog.bind_of_raise (by rw [checkPublic_run, hanswer, Lookup.verdict, hvet])
      rw [hhop]
      exact .refused (Net.looked_grown _ _)
    | ok =>
      have hreplies : web.Replies s.lookups s.url (web.get s.lookups s.url) :=
        ⟨host, addrs, hnames, hanswer, hvet, rfl⟩
      rw [hop_of_replies hnames hanswer hvet, hrequests]
      have hgrown := Net.replied_grown hnames hvet (web.get s.lookups s.url)
      generalize web.get s.lookups s.url = reply at hreplies hgrown
      cases reply with
      | error exc => exact .stumbled (.get hreplies) hgrown
      | ok resp =>
        have hreceived := received_cases (s := s.replied host addrs (.ok resp)) resp n
        change Hopped web s.lookups s (received resp n (s.replied host addrs (.ok resp)))
        generalize received resp n (s.replied host addrs (.ok resp)) = r at hreceived
        cases hreceived with
        | stopped hreq hlog =>
          refine .refused ⟨hreq.le.trans hgrown.requests, fun h => ?_⟩
          rw [hlog]
          exact hgrown.log h
        | redirected hredirect hseen hnext =>
          exact .redirected hreplies hredirect hseen hnext ⟨hgrown.requests, hgrown.log⟩ rfl
            ⟨rfl, rfl, congrArg (· + 1) hrequests⟩
        | broken hredirect hstatus himage hsize h =>
          exact .stumbled (.iterContent hreplies hredirect hstatus himage hsize h) hgrown
        | whole hredirect hstatus himage hsize h =>
          exact .brought ⟨hreplies, hredirect, hstatus, himage, ⟨h, rfl⟩, hsize⟩ hgrown rfl

/-- **How a turn ends.** -/
theorem hop_cases {k : Nat} (hlookups : s.lookups = k) (hrequests : s.requests = k) (n : Nat) :
    Hopped web k s (hop web n s) := by
  subst hlookups
  cases hparsed : web.urlparse s.url with
  | error exc =>
    have hhop : hop web n s = (.raise (.other exc), s) := by
      unfold hop
      rw [Prog.bind_of_ok (Prog.gets_run _ n s), hparsed]
      rfl
    rw [hhop]
    exact .stumbled (.urlparse hparsed) ⟨Nat.le_succ _, id⟩
  | ok parsed =>
    have hrefused (hnone : parsed.scheme ∉ ["http", "https"] ∨ given parsed.hostname = none) :
        ∃ msg, hop web n s = (.raise (.artError msg), s) := by
      unfold hop
      rw [Prog.bind_of_ok (Prog.gets_run _ n s), hparsed]
      rw [Prog.bind_of_ok (show unhandled (.ok parsed) n s = (.ok parsed, s) from rfl)]
      by_cases hscheme : parsed.scheme ∉ ["http", "https"]
      · rw [if_pos hscheme]
        exact ⟨_, rfl⟩
      · rw [if_neg hscheme, hnone.resolve_left hscheme]
        exact ⟨_, rfl⟩
    by_cases hscheme : parsed.scheme ∈ ["http", "https"]
    · cases hhost : given parsed.hostname with
      | none =>
        obtain ⟨msg, hhop⟩ := hrefused (.inr hhost)
        rw [hhop]
        exact .refused ⟨Nat.le_succ _, id⟩
      | some host =>
        have hnames : web.Names s.url host := ⟨parsed, hparsed, hscheme, hhost⟩
        exact hop_cases_of_names hrequests hnames n
    · obtain ⟨msg, hhop⟩ := hrefused (.inl hscheme)
      rw [hhop]
      exact .refused ⟨Nat.le_succ _, id⟩

/-- A turn has no loop of its own. -/
theorem hop_loopless : Loopless (hop web) := by
  unfold hop
  refine Loopless.bind (fun _ _ => rfl) fun url => Loopless.bind ?_ fun parsed => ?_
  · cases web.urlparse url <;> exact fun _ _ => rfl
  · split
    · exact fun _ _ => rfl
    · split
      · exact fun _ _ => rfl
      next host _ =>
        refine Loopless.bind (fun n s => ?_) fun _ => Loopless.bind (Loopless.bind
          (fun _ _ => rfl) fun reply => Loopless.bind (fun _ _ => rfl) fun _ => ?_) fun resp => ?_
        · rw [checkPublic_run, checkPublic_run]
        · cases reply <;> exact fun _ _ => rfl
        · intro n s
          cases hr : resp.redirects with
          | true =>
            unfold received
            rw [if_pos hr, Prog.bind_run, Prog.bind_run, follow_run, follow_run]
            rfl
          | false => rw [received_of_download hr, received_of_download hr]

end Turn

/-! ## A whole fetch -/

section Fetch

variable {web : Web} {url : String}

/-- The start of turn `k`. -/
structure Net.At (web : Web) (url : String) (k : Nat) (s : Net) : Prop where
  chain : web.Chain url k s.url
  seen : s.seen = k
  lookups : s.lookups = k
  requests : s.requests = k
  few : k ≤ maxRedirects
  log : web.Vetted s.log

theorem Net.start_at : (Net.start url).At web url 0 :=
  ⟨.start, rfl, rfl, rfl, Nat.zero_le _, vetted_nil⟩

/-- What holds however the fetch ends. -/
structure Net.Sent (web : Web) (s : Net) : Prop where
  requests : s.requests ≤ maxRedirects + 1
  log : web.Vetted s.log

theorem Net.At.grown {k : Nat} {s s' : Net} (h : s.At web url k) (hs : s.Grown web s') :
    s'.Sent web := by
  have hrequests := hs.requests
  rw [h.requests] at hrequests
  exact ⟨hrequests.trans (Nat.succ_le_succ h.few), hs.log h.log⟩

/-- The fetch has returned the whole of an image. -/
def Net.Returned (web : Web) (url : String) (data : Bytes) (s : Net) : Prop :=
  s.Sent web ∧ ∃ k at_ resp, web.Chain url k at_ ∧ web.Brings k at_ data resp ∧
    s.log.head? = some (.requested at_ (.ok resp))

/-- The fetch has been ended by an exception, an `ArtError` or one of the libraries'. -/
def Net.Failed (web : Web) (url : String) (e : Option Failure) (s : Net) : Prop :=
  s.Sent web ∧ ∀ exc, e = some (.other exc) →
    ∃ k at_, web.Chain url k at_ ∧ web.Stumbles k at_ exc

/-- A redirect starts the next turn. -/
theorem Net.At.redirected {k : Nat} {s s' : Net} {next : String} {resp : Response}
    (h : s.At web url k) (hreply : web.Replies k s.url (.ok resp))
    (hredirect : resp.redirects = true) (hseen : s.seen < maxRedirects)
    (hnext : given resp.location = some next) (hs : s.Grown web s') (hurl : s'.url = next)
    (hcount : s'.seen = s.seen + 1 ∧ s'.lookups = k + 1 ∧ s'.requests = k + 1) :
    s'.At web url (k + 1) := by
  rw [h.seen] at hseen hcount
  subst hurl
  exact ⟨h.chain.follow hreply hredirect hseen hnext, hcount.1, hcount.2.1, hcount.2.2, hseen,
    hs.log h.log⟩

/-- What a turn preserves, and how it ends the fetch. -/
theorem hop_step : Triple (fun s => ∃ k, s.At web url k) (hop web)
    (fun r s => match r with
      | some data => s.Returned web url data
      | none => ∃ k, s.At web url k)
    (Net.Failed web url) := by
  rintro n s ⟨k, h⟩
  have hturn : Hopped web k s (hop web n s) := hop_cases h.lookups h.requests n
  generalize hop web n s = r at hturn
  cases hturn with
  | refused hs => exact ⟨h.grown hs, nofun⟩
  | stumbled hstumbles hs =>
    refine ⟨h.grown hs, fun exc he => ?_⟩
    cases he
    exact ⟨k, s.url, h.chain, hstumbles⟩
  | redirected hreply hredirect hseen hnext hs hurl hcount =>
    exact ⟨k + 1, h.redirected hreply hredirect hseen hnext hs hurl hcount⟩
  | brought hbrings hs hlast =>
    exact ⟨h.grown hs, k, s.url, _, h.chain, hbrings, hlast⟩

/-- What a whole fetch does. -/
theorem fetchUrl_run : Triple (fun s => s = Net.start url) (fetchUrl web)
    (fun data s => s.Returned web url data) (Net.Failed web url) := by
  apply Triple.loop (fun s => ∃ k, s.At web url k)
  · rintro s rfl
    exact ⟨0, Net.start_at⟩
  · refine hop_step.post fun r s h => ?_
    cases r <;> exact h
  · rintro s ⟨k, h⟩
    exact ⟨h.grown ⟨Nat.le_succ _, id⟩, nofun⟩

/-! ### The loop ends -/

/-- Lookups and requests are in step. -/
def Net.Even (s : Net) : Prop := s.requests = s.lookups

theorem hop_goes {s : Net} (h : s.Even) : (hop web 0 s).1 ≠ .hang := by
  have hturn : Hopped web s.lookups s (hop web 0 s) := hop_cases rfl h 0
  generalize hop web 0 s = r at hturn
  cases hturn <;> exact nofun

theorem hop_variant {s s' : Net} (h : s.Even) (hr : hop web 0 s = (.ok none, s')) :
    s'.Even ∧ maxRedirects - s'.seen < maxRedirects - s.seen := by
  have hturn : Hopped web s.lookups s (hop web 0 s) := hop_cases rfl h 0
  rw [hr] at hturn
  cases hturn with
  | redirected hreply hredirect hseen hnext hs hurl hcount =>
    refine ⟨hcount.2.2.trans hcount.2.1.symm, ?_⟩
    rw [hcount.1]
    omega

theorem fetchUrl_settles : Settles (fetchUrl web) (Net.start url) :=
  settles_of_variant Net.Even (fun s => maxRedirects - s.seen) hop_loopless (fun _ => hop_goes)
    (fun _ _ => hop_variant) (Net.start url) rfl

/-- One turn more than the redirects is enough. -/
theorem fetchUrl_enough {n : Nat} (hn : maxRedirects < n) :
    fetchUrl web n (.start url) = fetchUrl web (maxRedirects + 1) (.start url) ∧
      (fetchUrl web n (.start url)).1 ≠ .hang :=
  turns_of_variant Net.Even (fun s => maxRedirects - s.seen) hop_loopless (fun _ => hop_goes)
    (fun _ _ => hop_variant) n (maxRedirects + 1) n _ (.start url) rfl hn (Nat.lt_succ_self _)

/-- What the fetch comes to is what `ingest` sees of it. -/
theorem fetchUrl_fetched {n : Nat} (hn : maxRedirects < n) : (fetchUrl web n (.start url)).1 =
    match web.fetched url with
    | .ok (.ok data) => .ok data
    | .ok (.error msg) => .raise (.artError msg)
    | .error exc => .raise (.other exc) := by
  obtain ⟨hsame, hgoes⟩ := @fetchUrl_enough web url n hn
  unfold Web.fetched
  rw [hsame] at hgoes ⊢
  generalize fetchUrl web (maxRedirects + 1) (.start url) = r at hgoes
  rcases r with ⟨data | (msg | exc) | _, s⟩
  · rfl
  · rfl
  · rfl
  · exact absurd rfl hgoes

/-- **Every hop of a fetch is vetted, and the fetch is bounded.** -/
theorem fetchUrl_guarded (web : Web) (url : String) :
    Settles (fetchUrl web) (Net.start url) ∧
    ∀ n, (fetchUrl web n (.start url)).2.requests ≤ maxRedirects + 1 ∧
      web.Vetted (fetchUrl web n (.start url)).2.log ∧
      ∀ data, (fetchUrl web n (.start url)).1 = .ok data → data ≠ [] ∧ data.length ≤ maxBytes ∧
        ∃ at_ resp, (fetchUrl web n (.start url)).2.log.head? = some (.requested at_ (.ok resp)) ∧
          resp.statusCode = 200 ∧ resp.isImage = true ∧ resp.broken = none ∧
          data = resp.chunks.flatten := by
  refine ⟨fetchUrl_settles, fun n => ?_⟩
  have hrun := @fetchUrl_run web url n (.start url) rfl
  generalize fetchUrl web n (.start url) = r at hrun
  rcases r with ⟨data | failure | _, s⟩
  · obtain ⟨hsent, k, at_, resp, -, hbrings, hlast⟩ := hrun
    refine ⟨hsent.requests, hsent.log, fun data' hdata => ?_⟩
    cases hdata
    exact ⟨hbrings.size.1, hbrings.size.2, at_, resp, hlast, hbrings.status, hbrings.image,
      hbrings.whole⟩
  · exact ⟨hrun.1.requests, hrun.1.log, nofun⟩
  · exact ⟨hrun.1.requests, hrun.1.log, nofun⟩

/-! ### What a fetch comes to -/

/-- A reply that has come is looked at. -/
theorem hop_of_reply {k : Nat} {s : Net} (h : s.At web url k) {resp : Response}
    (hreply : web.Replies k s.url (.ok resp)) (n : Nat) :
    ∃ host addrs, web.Names s.url host ∧ vet addrs = .ok () ∧
      hop web n s = received resp n (s.replied host addrs (.ok resp)) := by
  obtain ⟨host, addrs, hnames, hfound, hvet, hget⟩ := hreply
  rw [← h.lookups] at hfound
  rw [← h.requests] at hget
  refine ⟨host, addrs, hnames, hvet, ?_⟩
  rw [hop_of_replies hnames hfound hvet, hget]
  rfl

/-- Where a call raises, the turn does. -/
theorem hop_stumbles {k : Nat} {s : Net} (h : s.At web url k) {exc : Exc}
    (hs : web.Stumbles k s.url exc) (n : Nat) : (hop web n s).1 = .raise (.other exc) := by
  cases hs with
  | urlparse hparse =>
    unfold hop
    rw [Prog.bind_of_ok (Prog.gets_run _ n s), hparse]
    rfl
  | getaddrinfo hnames hraises =>
    rw [← h.lookups] at hraises
    rw [hop_of_names hnames, Prog.bind_run, checkPublic_run, hraises]
    rfl
  | get hreply =>
    obtain ⟨host, addrs, hnames, hfound, hvet, hget⟩ := hreply
    rw [← h.lookups] at hfound
    rw [← h.requests] at hget
    rw [hop_of_replies hnames hfound hvet, hget]
    rfl
  | iterContent hreply hredirect hstatus himage hsize hbroken =>
    obtain ⟨host, addrs, -, -, hhop⟩ := hop_of_reply h hreply n
    rw [hhop, received_of_download hredirect, download_of_broken hstatus himage hsize hbroken]

/-- Where an image comes whole, the turn returns it. -/
theorem hop_brings {k : Nat} {s : Net} (h : s.At web url k) {data : Bytes} {resp : Response}
    (hb : web.Brings k s.url data resp) (n : Nat) : (hop web n s).1 = .ok (some data) := by
  obtain ⟨hbroken, rfl⟩ := hb.whole
  obtain ⟨host, addrs, -, -, hhop⟩ := hop_of_reply h hb.reply n
  rw [hhop, received_of_download hb.redirect, download_of_whole hb.status hb.image hb.size hbroken]

/-- The fetch reaches every member of the chain. -/
theorem Web.Chain.reached {k : Nat} {at_ : String} (h : web.Chain url k at_) (j n : Nat) :
    ∃ s : Net, s.At web url k ∧ s.url = at_ ∧
      turns (hop web) (j + k) n (.start url) = turns (hop web) j n s := by
  induction h generalizing j with
  | start => exact ⟨.start url, Net.start_at, rfl, rfl⟩
  | @follow k at_ next resp hchain hreply hredirect hk hnext ih =>
    obtain ⟨s, hat, rfl, hturns⟩ := ih (j + 1)
    obtain ⟨host, addrs, hnames, hvet, hhop⟩ := hop_of_reply hat hreply n
    have hseen : (s.replied host addrs (.ok resp)).seen < maxRedirects := hat.seen.trans_lt hk
    rw [received_of_redirect hredirect hseen hnext] at hhop
    have hafter : Net.At web url (k + 1)
        { s.replied host addrs (.ok resp) with url := next, seen := s.seen + 1 } :=
      hat.redirected hreply hredirect (hat.seen.trans_lt hk) hnext
        ⟨Nat.le_refl _, (Net.replied_grown hnames hvet _).log⟩ rfl
        ⟨rfl, congrArg (· + 1) hat.lookups, congrArg (· + 1) hat.requests⟩
    refine ⟨_, hafter, rfl, ?_⟩
    rw [show j + (k + 1) = j + 1 + k by omega, hturns, turns, Prog.bind_of_ok hhop]
    rfl

theorem Web.Chain.few {k : Nat} {at_ : String} (h : web.Chain url k at_) : k ≤ maxRedirects := by
  cases h with
  | start => exact Nat.zero_le _
  | follow _ _ _ hk _ => exact hk

/-- A turn that the fetch reaches and that ends it gives the outcome. -/
theorem fetchUrl_of_hop {k : Nat} {at_ : String} (h : web.Chain url k at_)
    {o : Outcome Failure Bytes} (ho : ∀ s : Net, s.At web url k → s.url = at_ →
      ∀ j n, (turns (hop web) (j + 1) n s).1 = o) :
    (fetchUrl web (maxRedirects + 1) (.start url)).1 = o := by
  obtain ⟨s, hat, hurl, hturns⟩ := h.reached (maxRedirects - k + 1) (maxRedirects + 1)
  have hfew := h.few
  rw [show maxRedirects - k + 1 + k = maxRedirects + 1 by omega] at hturns
  unfold fetchUrl Prog.loop
  rw [hturns]
  exact ho s hat hurl _ _

/-- **Another exception than an `ArtError` comes out exactly where a call raises it.** -/
theorem fetched_error_iff {exc : Exc} : web.fetched url = .error exc ↔
    ∃ k at_, web.Chain url k at_ ∧ web.Stumbles k at_ exc := by
  unfold Web.fetched
  constructor
  · intro h
    have hrun := @fetchUrl_run web url (maxRedirects + 1) (.start url) rfl
    generalize fetchUrl web (maxRedirects + 1) (.start url) = r at hrun h
    rcases r with ⟨data | (msg | exc') | _, s⟩
    · cases h
    · cases h
    · cases h
      exact hrun.2 exc rfl
    · cases h
  · rintro ⟨k, at_, hchain, hstumbles⟩
    rw [fetchUrl_of_hop (o := .raise (.other exc)) hchain]
    rintro s hat rfl j n
    have hhop := hop_stumbles hat hstumbles n
    rw [turns, Prog.bind_of_raise (Prog.run_eq hhop)]

/-- **Bytes come out exactly where the whole of an image comes.** -/
theorem fetched_ok_iff {data : Bytes} (hne : data ≠ []) : web.fetched url = .ok (.ok data) ↔
    ∃ k at_ resp, web.Chain url k at_ ∧ web.Brings k at_ data resp := by
  unfold Web.fetched
  constructor
  · intro h
    have hrun := @fetchUrl_run web url (maxRedirects + 1) (.start url) rfl
    generalize fetchUrl web (maxRedirects + 1) (.start url) = r at hrun h
    rcases r with ⟨data' | (msg | exc') | _, s⟩
    · cases h
      obtain ⟨-, k, at_, resp, hchain, hbrings, -⟩ := hrun
      exact ⟨k, at_, resp, hchain, hbrings⟩
    · cases h
    · cases h
    · cases h
      exact absurd rfl hne
  · rintro ⟨k, at_, resp, hchain, hbrings⟩
    rw [fetchUrl_of_hop (o := .ok data) hchain]
    rintro s hat rfl j n
    have hhop := hop_brings hat hbrings n
    rw [turns, Prog.bind_of_ok (Prog.run_eq hhop)]
    rfl

end Fetch

end StakkaWeb
