import K3ScreenCtrl.Mirror

/-!
# Host pages that exist

The keys move `g_host_page` within the bounds of the host table they see.  The
alarm changes the table and sends the page again without looking at
`g_host_page`, so a list that shrinks while a later page is shown leaves the
screen on a page that does not exist.

`hostPagesExist_iff` says exactly when every host request of a run names an
existing page: when every update on the host page leaves the page that is
shown.
-/

namespace K3ScreenCtrl

open CString History Pieces

/-! ## The property -/

/-- The page that the next host request would name exists: its first record
is the first one or lies in the table, so that a table with hosts gives a
page with at least one host and with an index that the table has. -/
def NamesExistingPage (d : Daemon) : Prop :=
  let n := d.tables.gHostInfoElements.toNat
  let start := d.gHostPage * HOSTS_PER_PAGE
  (start = 0 ∨ start < n) ∧
    (0 < n → 1 ≤ copylen (getHostsCount d) start ∧
      (UInt8.ofInt (start.tdiv HOSTS_PER_PAGE)).toNat <
        (n + HOSTS_PER_PAGE - 1) / HOSTS_PER_PAGE)

/-- What happens between two states sends host requests only for the page of
the second state, and only if that page exists. -/
def HostRequestsExist (d d' : Daemon) : Prop :=
  ∃ new, d'.sent = d.sent ++ new ∧
    ∀ p ∈ new, isRequest .updateHostsPaged p = true →
      requestUpdateHostsPaged d'.tables.gHostInfoArray (getHostsCount d')
          (d'.gHostPage * HOSTS_PER_PAGE) = some p ∧
        NamesExistingPage d'

/-- Every host request of a run names an existing page. -/
def HostPagesExist (cfg : Config) (env : ScriptEnv) (start : Int) (inputs : List Input) : Prop :=
  ∀ d, boot env start = some d →
    HostRequestsExist Daemon.init d ∧
      Run.Every (step cfg) (fun d _ d' => HostRequestsExist d d') d inputs

/-! ## The condition -/

/-- The number of hosts after a run of the host script, as an `int`. -/
def hostsAfter (old : UInt32) (env : ScriptEnv) : Int :=
  (hostCountAfter old (env.script .hosts).output env.hostBlock.isSome).toInt32.toInt

/-- A tick on the host page leaves the page that is shown: the list does not
become shorter than that page needs. -/
def HostPageStays (d : Daemon) (i : Input) : Prop :=
  ∀ env now, i = .signal .sigalrm env now → d.gCurrentPage = .hosts →
    0 ≤ hostsAfter d.tables.gHostInfoElements env ∧
      (d.gHostPage = 0 ∨
        d.gHostPage * HOSTS_PER_PAGE < hostsAfter d.tables.gHostInfoElements env)

/-! ## The invariant -/

/-- The host page is one that the table has. -/
structure OnHostPage (d : Daemon) : Prop where
  hostPage_nonneg : 0 ≤ d.gHostPage
  count_nonneg : 0 ≤ getHostsCount d
  inside : d.gHostPage = 0 ∨ d.gHostPage * HOSTS_PER_PAGE < getHostsCount d

/-- A count that is not negative as an `int` is the `unsigned int` itself. -/
theorem getHostsCount_eq {d : Daemon} (h : 0 ≤ getHostsCount d) :
    getHostsCount d = d.tables.gHostInfoElements.toNat := by
  have hn := d.tables.gHostInfoElements.toNat_lt
  unfold getHostsCount at h ⊢
  rw [toInt_toInt32] at h ⊢
  split at h
  · next hlt => rw [if_pos hlt]
  · omega

/-- The index byte of a page that is in the table. -/
theorem toNat_pageIndex_le {k : Int} (h : 0 ≤ k) :
    ((UInt8.ofInt ((k * HOSTS_PER_PAGE).tdiv HOSTS_PER_PAGE)).toNat : Int) ≤ k := by
  rw [tdiv_hostsPerPage, UInt8.ofInt, UInt8.toNat_ofNat']
  omega

theorem OnHostPage.namesExistingPage {d : Daemon} (h : OnHostPage d) : NamesExistingPage d := by
  have hcount := getHostsCount_eq h.count_nonneg
  have hpage := h.hostPage_nonneg
  have hinside := h.inside
  have hindex := toNat_pageIndex_le hpage
  unfold NamesExistingPage
  dsimp only
  constructor
  · unfold HOSTS_PER_PAGE at hinside ⊢
    omega
  · intro hn
    constructor
    · unfold copylen HOSTS_PER_PAGE
      unfold HOSTS_PER_PAGE at hinside
      split <;> omega
    · generalize (UInt8.ofInt ((d.gHostPage * HOSTS_PER_PAGE).tdiv HOSTS_PER_PAGE)).toNat = index
        at hindex ⊢
      unfold HOSTS_PER_PAGE at hinside ⊢
      omega

/-- A page that exists is one that the table has. -/
theorem OnHostPage.of_namesExistingPage {d : Daemon} (h : NamesExistingPage d)
    (hpage : 0 ≤ d.gHostPage) : OnHostPage d := by
  obtain ⟨hstart, hcarries⟩ := h
  have hconv := toInt_toInt32 d.tables.gHostInfoElements
  by_cases hn : d.tables.gHostInfoElements.toNat = 0
  · have hcount : getHostsCount d = 0 := by
      unfold getHostsCount
      rw [hconv, hn]
      rfl
    refine ⟨hpage, by omega, ?_⟩
    rw [hn] at hstart
    unfold HOSTS_PER_PAGE at hstart
    omega
  · obtain ⟨hlen, _⟩ := hcarries (by omega)
    have hlt : d.gHostPage * HOSTS_PER_PAGE < getHostsCount d := by
      unfold copylen HOSTS_PER_PAGE at hlen
      unfold HOSTS_PER_PAGE
      split at hlen <;> omega
    have hstart : 0 ≤ d.gHostPage * HOSTS_PER_PAGE := by
      unfold HOSTS_PER_PAGE
      omega
    exact ⟨hpage, by omega, Or.inr hlt⟩

/-- A move stays on pages that the table has. -/
theorem Nav.target_inside {nav : Nav} {count : Int} {page page' : Page} {hostPage hostPage' : Int}
    (h : nav.target count page hostPage = some (page', hostPage'))
    (hinside : hostPage = 0 ∨ hostPage * HOSTS_PER_PAGE < count) :
    hostPage' = 0 ∨ hostPage' * HOSTS_PER_PAGE < count := by
  unfold HOSTS_PER_PAGE at hinside ⊢
  unfold Nav.target HOSTS_PER_PAGE at h
  split at h
  · cases h
    exact Or.inl rfl
  · split at h
    · cases h
      omega
    · cases h
  · cases h
    exact hinside
  · cases h
  · split at h
    · cases h
      omega
    · cases h
      exact hinside
  · cases h
    exact hinside

/-! ## Host requests -/

/-- A host request among page payloads is the one of the host page. -/
theorem pagePayload_of_isRequest {t : Tables} {hostPage : Int} {pages : List Page}
    {payloads : List (List UInt8)} (h : pagePayloads t hostPage pages = some payloads)
    {p : List UInt8} (hp : p ∈ payloads) (htype : isRequest .updateHostsPaged p = true) :
    pagePayload .hosts t hostPage = some p := by
  obtain ⟨q, hq⟩ := mem_pagePayloads h hp
  rw [isRequest_pagePayload hq] at htype
  have hhosts : q = .hosts := by
    cases q <;> first | rfl | exact absurd htype (by decide)
  rw [← hhosts]
  exact hq

/-- Sending page payloads and requests of other kinds, with the cursor on a
page that exists. -/
theorem HostRequestsExist.of_sent {d d' : Daemon} {payloads others : List (List UInt8)}
    {pages : List Page} (hsent : d'.sent = d.sent ++ (payloads ++ others))
    (hpayloads : pagePayloads d'.tables d'.gHostPage pages = some payloads)
    (hothers : ∀ p ∈ others, isRequest .updateHostsPaged p = false)
    (hexists : NamesExistingPage d') : HostRequestsExist d d' := by
  refine ⟨_, hsent, ?_⟩
  intro p hp htype
  rcases List.mem_append.mp hp with hp | hp
  · exact ⟨pagePayload_of_isRequest hpayloads hp htype, hexists⟩
  · rw [hothers p hp] at htype
    cases htype

/-- Sending no host request. -/
theorem HostRequestsExist.of_others {d d' : Daemon} {others : List (List UInt8)}
    (hsent : d'.sent = d.sent ++ others)
    (hothers : ∀ p ∈ others, isRequest .updateHostsPaged p = false) : HostRequestsExist d d' := by
  refine ⟨_, hsent, ?_⟩
  intro p hp htype
  rw [hothers p hp] at htype
  cases htype

/-- Sending the host page sends a host request. -/
theorem NamesExistingPage.of_sent {d d' : Daemon} {before payloads others : List (List UInt8)}
    {pages : List Page} (h : HostRequestsExist d d')
    (hsent : d'.sent = d.sent ++ (before ++ payloads ++ others))
    (hpayloads : pagePayloads d'.tables d'.gHostPage pages = some payloads)
    (hhosts : .hosts ∈ pages) : NamesExistingPage d' := by
  obtain ⟨new, hnew, hall⟩ := h
  obtain ⟨p, hmem, hp⟩ := exists_pagePayload_of_mem hpayloads hhosts
  have heq : new = before ++ payloads ++ others := by
    rw [hnew] at hsent
    exact List.append_cancel_left hsent
  have htype : isRequest .updateHostsPaged p = true := by
    rw [isRequest_pagePayload hp]
    rfl
  have hin : p ∈ new := by
    rw [heq]
    exact List.mem_append_left others (List.mem_append_right before hmem)
  exact (hall p hin htype).2

/-! ## One event -/

/-- The number of hosts after a tick. -/
theorem gHostInfoElements_updatedTables (env : ScriptEnv) (page : Page) (t : Tables) :
    (updatedTables env page t).gHostInfoElements =
      if page = .hosts then
        hostCountAfter t.gHostInfoElements (env.script .hosts).output env.hostBlock.isSome
      else t.gHostInfoElements := by
  cases page with
  | hosts => exact gHostInfoElements_updateHostInfo _ _ _
  | wan =>
    have hwan := (hosts_updatePageInfo (show Page.wan ≠ .hosts by decide) env t).2
    have hwifi := (hosts_updatePageInfo (show Page.wifi ≠ .hosts by decide) env
      (updatePageInfo env .wan t).2).2
    exact hwifi.trans hwan
  | basicInfo => exact (hosts_updatePageInfo (by decide) env t).2
  | ports => exact (hosts_updatePageInfo (by decide) env t).2
  | wifi => exact (hosts_updatePageInfo (by decide) env t).2

/-- A tick that leaves the page that is shown keeps the cursor on the table. -/
theorem OnHostPage.tick {d d' : Daemon} {env : ScriptEnv} {now : Int} (h : OnHostPage d)
    (hstay : HostPageStays d (.signal .sigalrm env now))
    (htables : d'.tables = updatedTables env d.gCurrentPage d.tables)
    (hhostPage : d'.gHostPage = d.gHostPage) : OnHostPage d' := by
  have hcount : getHostsCount d' =
      if d.gCurrentPage = .hosts then hostsAfter d.tables.gHostInfoElements env
      else getHostsCount d := by
    unfold getHostsCount hostsAfter
    rw [htables, gHostInfoElements_updatedTables]
    split <;> rfl
  by_cases hpage : d.gCurrentPage = .hosts
  · obtain ⟨hnonneg, hinside⟩ := hstay env now rfl hpage
    rw [if_pos hpage] at hcount
    refine ⟨hhostPage ▸ h.hostPage_nonneg, by omega, ?_⟩
    rw [hhostPage, hcount]
    exact hinside
  · rw [if_neg hpage] at hcount
    refine ⟨hhostPage ▸ h.hostPage_nonneg, hcount ▸ h.count_nonneg, ?_⟩
    rw [hhostPage, hcount]
    exact h.inside

/-- A tick after which the shown page exists left that page. -/
theorem HostPageStays.of_tick {d d' : Daemon} {env : ScriptEnv} {now : Int}
    (h : d.gCurrentPage = .hosts → OnHostPage d')
    (htables : d'.tables = updatedTables env d.gCurrentPage d.tables)
    (hhostPage : d'.gHostPage = d.gHostPage) : HostPageStays d (.signal .sigalrm env now) := by
  intro env' now' hi hpage
  cases hi
  have hcount : getHostsCount d' = hostsAfter d.tables.gHostInfoElements env := by
    unfold getHostsCount hostsAfter
    rw [htables, gHostInfoElements_updatedTables, if_pos hpage]
  have hd' := h hpage
  rw [← hcount, ← hhostPage]
  exact ⟨hd'.count_nonneg, hd'.inside⟩

/-- An event that leaves the shown page keeps the cursor on the table. -/
theorem OnHostPage.step {cfg : Config} {d d' : Daemon} {i : Input} (h : OnHostPage d)
    (hstep : step cfg d i = some d') (hstay : HostPageStays d i) : OnHostPage d' := by
  obtain ⟨_, hcases⟩ := step_cases hstep
  cases hcases with
  | move key rest now hon nav page hostPage payloads htarget hpayloads =>
    exact ⟨Nav.target_nonneg htarget h.hostPage_nonneg, h.count_nonneg,
      Nav.target_inside htarget h.inside⟩
  | tick env now payloads t ht hpayloads hin => exact h.tick hstay ht rfl
  | tickSleep env now payloads t ht hpayloads hout => exact h.tick hstay ht rfl
  | _ => exact ⟨h.hostPage_nonneg, h.count_nonneg, h.inside⟩

/-- Event requests are no host requests. -/
theorem isRequest_hosts_event (event : Event) :
    ∀ p ∈ [requestNotifyEvent event], isRequest .updateHostsPaged p = false := by
  intro p hp
  rcases List.mem_singleton.mp hp with rfl
  exact isRequest_requestSendRaw _ _ _

/-- If the cursor is on the table afterwards, the event sent only host requests
for existing pages. -/
theorem OnHostPage.hostRequestsExist {cfg : Config} {d d' : Daemon} {i : Input}
    (h : OnHostPage d') (hstep : K3ScreenCtrl.step cfg d i = some d') : HostRequestsExist d d' := by
  obtain ⟨_, hcases⟩ := step_cases hstep
  cases hcases with
  | version payload version => exact .of_others (List.append_nil _).symm (by simp)
  | empty now => exact .of_others (List.append_nil _).symm (by simp)
  | wakeup key rest now hoff => exact .of_others rfl (isRequest_hosts_event _)
  | stay key rest now hon => exact .of_others (List.append_nil _).symm (by simp)
  | move key rest now hon nav page hostPage payloads htarget hpayloads =>
    refine .of_sent rfl hpayloads ?_ h.namesExistingPage
    intro p hp
    rcases List.mem_singleton.mp hp with rfl
    exact isRequest_requestSendRaw _ _ _
  | sleepKey key rest now hon => exact .of_others rfl (isRequest_hosts_event _)
  | tick env now payloads t ht hpayloads hin =>
    have hsent : d.sent ++ payloads = d.sent ++ (payloads ++ []) := by rw [List.append_nil]
    exact .of_sent hsent hpayloads (by simp) h.namesExistingPage
  | tickSleep env now payloads t ht hpayloads hout =>
    exact .of_sent rfl hpayloads (isRequest_hosts_event _) h.namesExistingPage
  | notice signal env now event exited hsignal hevent hexited =>
    exact .of_others rfl (isRequest_hosts_event _)

/-- If the event sent only host requests for existing pages, it left the page
that was shown. -/
theorem HostRequestsExist.hostPageStays {cfg : Config} {d d' : Daemon} {i : Input}
    (h : HostRequestsExist d d') (hpage : 0 ≤ d.gHostPage)
    (hstep : K3ScreenCtrl.step cfg d i = some d') : HostPageStays d i := by
  obtain ⟨_, hcases⟩ := step_cases hstep
  cases hcases with
  | tick env now payloads t ht hpayloads hin =>
    refine @HostPageStays.of_tick d ({ d with tables := t }.sendAll payloads) env now ?_ ht rfl
    intro hhosts
    have hsent : d.sent ++ payloads = d.sent ++ ([] ++ payloads ++ []) := by simp
    have hmem : Page.hosts ∈ refreshedPages d.gCurrentPage := hhosts ▸ mem_refreshedPages .hosts
    exact .of_namesExistingPage (.of_sent h hsent hpayloads hmem) hpage
  | tickSleep env now payloads t ht hpayloads hout =>
    refine @HostPageStays.of_tick d ({ d with tables := t, gIsScreenOn := false }.sendAll
      (payloads ++ [requestNotifyEvent .sleep])) env now ?_ ht rfl
    intro hhosts
    have hmem : Page.hosts ∈ refreshedPages d.gCurrentPage := hhosts ▸ mem_refreshedPages .hosts
    exact .of_namesExistingPage (@NamesExistingPage.of_sent _ _ [] _ _ _ h rfl hpayloads hmem) hpage
  | notice signal env now event exited hsignal hevent hexited =>
    intro env' now' hi _
    cases hi
    exact absurd rfl hsignal
  | _ =>
    intro env' now' hi _
    cases hi

/-! ## Every run -/

/-- The number of hosts after the start-up. -/
theorem gHostInfoElements_updateAllInfo (env : ScriptEnv) :
    (updateAllInfo env Tables.init).2.gHostInfoElements =
      hostCountAfter 0 (env.script .hosts).output env.hostBlock.isSome := by
  have hother : ∀ page t, page ≠ .hosts → t.gHostInfoElements = 0 →
      (updatePageInfo env page t).2.gHostInfoElements = 0 := by
    intro page t hpage ht
    rw [(hosts_updatePageInfo hpage env t).2, ht]
  have hzero := hother .wifi _ (by decide) (hother .wan _ (by decide)
    (hother .ports _ (by decide) (hother .basicInfo Tables.init (by decide) rfl)))
  rw [updateAllInfo_snd]
  show (updateHostInfo _ _ _).2.gHostInfoElements = _
  rw [gHostInfoElements_updateHostInfo]
  show hostCountAfter (updatePageInfo env .wifi _).2.gHostInfoElements _ _ = _
  rw [hzero]

/-- The start-up sends the first page of the table that it has just read. -/
theorem hostRequestsExist_boot {env : ScriptEnv} {start : Int} {d : Daemon}
    (h : boot env start = some d) :
    (HostRequestsExist Daemon.init d ↔ 0 ≤ hostsAfter 0 env) ∧
      (0 ≤ hostsAfter 0 env → OnHostPage d) := by
  rw [boot_eq] at h
  obtain ⟨payloads, hpayloads, rfl⟩ := Option.map_eq_some_iff.mp h
  generalize hd : (Daemon.sendAll _ _) = d
  have hcount : getHostsCount d = hostsAfter 0 env := by
    rw [← hd]
    show (updateAllInfo env Tables.init).2.gHostInfoElements.toInt32.toInt = _
    rw [gHostInfoElements_updateAllInfo]
    rfl
  have hpage : d.gHostPage = 0 := by
    rw [← hd]
    rfl
  have hsent : d.sent =
      [] ++ ([requestMcuVersion] ++ payloads ++ [requestSwitchPage .wan]) := by
    rw [← hd]
    rfl
  have hread : pagePayloads d.tables d.gHostPage [.basicInfo, .ports, .wan, .wifi, .hosts] =
      some payloads := by
    rw [← hd]
    exact hpayloads
  have hon : 0 ≤ hostsAfter 0 env → OnHostPage d := by
    intro hnonneg
    exact ⟨by omega, by omega, Or.inl hpage⟩
  refine ⟨⟨?_, ?_⟩, hon⟩
  · intro hexist
    have hnames := NamesExistingPage.of_sent hexist hsent hread (by decide)
    have hd' := OnHostPage.of_namesExistingPage hnames (by omega)
    rw [← hcount]
    exact hd'.count_nonneg
  · intro hnonneg
    refine ⟨_, hsent, ?_⟩
    intro p hp htype
    have hmem : p ∈ payloads := by
      rcases List.mem_append.mp hp with hp | hp
      · rcases List.mem_append.mp hp with hp | hp
        · rcases List.mem_singleton.mp hp with rfl
          exact absurd htype (by decide)
        · exact hp
      · rcases List.mem_singleton.mp hp with rfl
        exact absurd htype (by decide)
    exact ⟨pagePayload_of_isRequest hread hmem htype, (hon hnonneg).namesExistingPage⟩

/-- Every host request of a run names an existing page exactly when the
start-up reads a count that is no negative `int`, and every tick on the host
page leaves the page that is shown. -/
theorem hostPagesExist_iff (cfg : Config) (env : ScriptEnv) (start : Int) (inputs : List Input) :
    HostPagesExist cfg env start inputs ↔
      ∀ d, boot env start = some d →
        0 ≤ hostsAfter 0 env ∧ Run.Every (step cfg) (fun d i _ => HostPageStays d i) d inputs := by
  have hstep : ∀ d i d', OnHostPage d → step cfg d i = some d' →
      (HostRequestsExist d d' ↔ HostPageStays d i) := by
    intro d i d' hd hd'
    constructor
    · intro h
      exact h.hostPageStays hd.hostPage_nonneg hd'
    · intro h
      exact (hd.step hd' h).hostRequestsExist hd'
  have hrun : ∀ d, OnHostPage d →
      (Run.Every (step cfg) (fun d _ d' => HostRequestsExist d d') d inputs ↔
        Run.Every (step cfg) (fun d i _ => HostPageStays d i) d inputs) :=
    fun d hd => Run.every_iff hstep (fun _ _ _ hd hd' hstay => hd.step hd' hstay) hd
  unfold HostPagesExist
  constructor
  · intro h d hd
    obtain ⟨hboot, hinputs⟩ := h d hd
    obtain ⟨hiff, hon⟩ := hostRequestsExist_boot hd
    have hnonneg := hiff.mp hboot
    exact ⟨hnonneg, (hrun d (hon hnonneg)).mp hinputs⟩
  · intro h d hd
    obtain ⟨hnonneg, hinputs⟩ := h d hd
    obtain ⟨hiff, hon⟩ := hostRequestsExist_boot hd
    exact ⟨hiff.mpr hnonneg, (hrun d (hon hnonneg)).mpr hinputs⟩

/-- The host script prints a text, and the other scripts print nothing. -/
def hostsEnv (s : List UInt8) (h : 0 ∉ s) (hs : s.length < 100) : ScriptEnv where
  script := fun page =>
    if page = .hosts then .ofText s h hs else { output := none, overlay := fun _ => none }
  hostBlock := some fun _ => .zero

/-- Seven hosts announced, and six records with a line behind them. -/
def sixHosts : ScriptEnv :=
  hostsEnv ([0x37, NEWLINE] ++ List.replicate 25 NEWLINE) (by decide) (by decide)

/-- No hosts: the text is "0". -/
def noHosts : ScriptEnv := hostsEnv [0x30, NEWLINE] (by decide) (by decide)

/-- Three keys lead from the first page to the second host page. -/
def toSecondHostPage : List Input :=
  [.keyPress [KEY_RIGHT_SHORT] 1, .keyPress [KEY_RIGHT_SHORT] 2, .keyPress [KEY_RIGHT_SHORT] 3]

/-- The list becomes empty while the second host page is shown. -/
theorem hostPagesExist_counterexample :
    ¬ ∀ (cfg : Config) (env : ScriptEnv) (start : Int) (inputs : List Input),
        HostPagesExist cfg env start inputs := by
  intro hall
  have hrun : (runDaemon { screenTimeout := 0 } sixHosts 0 toSecondHostPage).map
      (fun d => (d.gCurrentPage, d.gHostPage)) = some (.hosts, 1) := by decide +kernel
  have htick : (runDaemon { screenTimeout := 0 } sixHosts 0
      (toSecondHostPage ++ [.signal .sigalrm noHosts 4])).isSome := by decide +kernel
  obtain ⟨d, hd, hcursor⟩ := Option.map_eq_some_iff.mp hrun
  obtain ⟨d₀, hboot, hinputs⟩ := Option.bind_eq_some_iff.mp hd
  obtain ⟨hpage, hhostPage⟩ := Prod.mk.inj hcursor
  rw [runDaemon_concat, hd, Option.bind_some] at htick
  obtain ⟨d', hstep⟩ := Option.isSome_iff_exists.mp htick
  have hevery := (hall { screenTimeout := 0 } sixHosts 0
    (toSecondHostPage ++ [.signal .sigalrm noHosts 4]) d₀ hboot).2
  have hrequests := Run.every_concat hevery hinputs hstep
  have hstays := hrequests.hostPageStays (by omega) hstep noHosts 4 rfl hpage
  have hzero : hostsAfter d.tables.gHostInfoElements noHosts = 0 := rfl
  rw [hzero, hhostPage] at hstays
  exact absurd hstays.2 (by decide)

end K3ScreenCtrl
