import K3ScreenCtrl.Requests

/-!
# The pages

`pages.c`: which page is shown, how the keys move between pages, and which
requests that sends.

`Daemon` is the state of the whole program: the tables, the static variables
of `pages.c`, `handlers.c` and `signals.c`, and the payloads that were handed
to `frame_send` so far.  Sending a host page reads the host table, which can
fail, so the functions that send a page answer `none` when that read has no
defined result.
-/

namespace K3ScreenCtrl

open CString

/-- The state of the program. -/
structure Daemon where
  tables : Tables
  gHostPage : Int
  gCurrentPage : Page
  gIsScreenOn : Bool
  gLastCheckTime : Int
  gMcuVersion : McuVersion
  /-- The process has called `exit`. -/
  exited : Bool
  sent : List (List UInt8)

/-- The state at program start. -/
def Daemon.init : Daemon where
  tables := Tables.init
  gHostPage := 0
  gCurrentPage := .wan
  gIsScreenOn := true
  gLastCheckTime := 0
  gMcuVersion := { patchVer := 0, minorVer := 0, majorVer := 0 }
  exited := false
  sent := []

/-- Hand a payload to `frame_send`. -/
def Daemon.send (d : Daemon) (payload : List UInt8) : Daemon :=
  { d with sent := d.sent ++ [payload] }

/-- `get_hosts_count`: an `unsigned int`, returned as an `int`. -/
def getHostsCount (d : Daemon) : Int := d.tables.gHostInfoElements.toInt32.toInt

/-- `send_page_data`. -/
def sendPageData (page : Page) (d : Daemon) : Option Daemon :=
  match page with
  | .basicInfo =>
    some (d.send (requestUpdateBasicInfo d.tables.gBasicInfo.productName.str
      d.tables.gBasicInfo.hwVersion.str d.tables.gBasicInfo.fwVersion.str
      d.tables.gBasicInfo.macAddrBase.str))
  | .ports => some (d.send (requestUpdatePorts d.tables.gPortInfo))
  | .wan =>
    some (d.send (requestUpdateWan d.tables.gWanInfo.isConnected d.tables.gWanInfo.txBytesPerSec
      d.tables.gWanInfo.rxBytesPerSec))
  | .wifi => some (d.send (requestUpdateWifi d.tables.gWifiInfo))
  | .hosts =>
    (requestUpdateHostsPaged d.tables.gHostInfoArray (getHostsCount d)
      (d.gHostPage * HOSTS_PER_PAGE)).map d.send

/-- `page_send_initial_data`. -/
def pageSendInitialData (d : Daemon) : Option Daemon := do
  let d ← sendPageData .basicInfo d
  let d ← sendPageData .ports d
  let d ← sendPageData .wan d
  let d ← sendPageData .wifi d
  let d ← sendPageData .hosts d
  return d.send (requestSwitchPage .wan)

/-- `page_update`. -/
def pageUpdate (env : ScriptEnv) (d : Daemon) : Daemon :=
  match d.gCurrentPage with
  | .wan =>
    -- the WAN page shows the station count
    let wan := (updatePageInfo env .wan d.tables).2
    { d with tables := (updatePageInfo env .wifi wan).2 }
  | page => { d with tables := (updatePageInfo env page d.tables).2 }

/-- `page_refresh`. -/
def pageRefresh (d : Daemon) : Option Daemon :=
  match d.gCurrentPage with
  | .wan => (sendPageData .wan d).bind (sendPageData .wifi)
  | page => sendPageData page d

/-- `page_refresh(); request_switch_page(g_current_page);` -/
def refreshAndSwitch (d : Daemon) : Option Daemon :=
  (pageRefresh d).map fun d => d.send (requestSwitchPage d.gCurrentPage)

/-- `page_switch_to`, on any value of the parameter. -/
def pageSwitchTo (page : Nat) (d : Daemon) : Option Daemon :=
  match Page.ofCode? page with
  | some page => refreshAndSwitch { d with gCurrentPage := page, gHostPage := 0 }
  | none => some d

/-- `page_switch_next`. -/
def pageSwitchNext (d : Daemon) : Option Daemon :=
  if d.gCurrentPage ≠ .hosts then
    if d.gCurrentPage.code < PAGE_MAX.code then
      refreshAndSwitch { d with gCurrentPage := d.gCurrentPage.succ }
    else some d
  else if getHostsCount d - (d.gHostPage + 1) * HOSTS_PER_PAGE > 0 then
    refreshAndSwitch { d with gHostPage := d.gHostPage + 1 }
  else some d

/-- `page_switch_prev`. -/
def pageSwitchPrev (d : Daemon) : Option Daemon :=
  if d.gCurrentPage ≠ .hosts then
    if d.gCurrentPage.code > PAGE_MIN.code then
      refreshAndSwitch { d with gCurrentPage := d.gCurrentPage.pred }
    else some d
  else if d.gHostPage > 0 then
    refreshAndSwitch { d with gHostPage := d.gHostPage - 1 }
  else refreshAndSwitch { d with gCurrentPage := d.gCurrentPage.pred }

/-! ## What the pages send -/

/-- The payload that carries the data of a page, if the tables can be read. -/
def pagePayload (page : Page) (t : Tables) (hostPage : Int) : Option (List UInt8) :=
  match page with
  | .basicInfo =>
    some (requestUpdateBasicInfo t.gBasicInfo.productName.str t.gBasicInfo.hwVersion.str
      t.gBasicInfo.fwVersion.str t.gBasicInfo.macAddrBase.str)
  | .ports => some (requestUpdatePorts t.gPortInfo)
  | .wan =>
    some (requestUpdateWan t.gWanInfo.isConnected t.gWanInfo.txBytesPerSec
      t.gWanInfo.rxBytesPerSec)
  | .wifi => some (requestUpdateWifi t.gWifiInfo)
  | .hosts =>
    requestUpdateHostsPaged t.gHostInfoArray t.gHostInfoElements.toInt32.toInt
      (hostPage * HOSTS_PER_PAGE)

/-- The type of the request that carries the data of a page. -/
def Page.requestType : Page → RequestType
  | .basicInfo => .updateBasicInfo
  | .ports => .updatePorts
  | .wan => .updateWan
  | .wifi => .updateWifi
  | .hosts => .updateHostsPaged

theorem Page.requestType_injective {p q : Page} (h : p.requestType = q.requestType) : p = q := by
  cases p <;> cases q <;> first | rfl | exact absurd h (by decide)

theorem sendPageData_eq (page : Page) (d : Daemon) :
    sendPageData page d = (pagePayload page d.tables d.gHostPage).map d.send := by
  cases page <;> rfl

/-- The payload of a page has the type of that page. -/
theorem requestType_pagePayload {page : Page} {t : Tables} {hostPage : Int} {p : List UInt8}
    (h : pagePayload page t hostPage = some p) :
    K3ScreenCtrl.requestType p = some page.requestType.code := by
  cases page with
  | basicInfo =>
    cases h
    rfl
  | ports =>
    cases h
    rfl
  | wan =>
    cases h
    rfl
  | wifi =>
    cases h
    rfl
  | hosts =>
    obtain ⟨info, _, rfl⟩ := Option.map_eq_some_iff.mp h
    rfl

/-- The pages whose data a refresh sends. -/
def refreshedPages : Page → List Page
  | .wan => [.wan, .wifi]
  | page => [page]

theorem mem_refreshedPages (page : Page) : page ∈ refreshedPages page := by
  cases page <;> decide

/-- The payloads of a list of pages, in order. -/
def pagePayloads (t : Tables) (hostPage : Int) : List Page → Option (List (List UInt8))
  | [] => some []
  | page :: pages =>
    (pagePayload page t hostPage).bind fun p => (pagePayloads t hostPage pages).map (p :: ·)

/-- The payloads of a refresh. -/
def refreshPayloads (page : Page) (t : Tables) (hostPage : Int) : Option (List (List UInt8)) :=
  pagePayloads t hostPage (refreshedPages page)

theorem pagePayloads_cons_eq_some {t : Tables} {hostPage : Int} {page : Page} {pages : List Page}
    {payloads : List (List UInt8)} (h : pagePayloads t hostPage (page :: pages) = some payloads) :
    ∃ p ps, pagePayload page t hostPage = some p ∧ pagePayloads t hostPage pages = some ps ∧
      payloads = p :: ps := by
  obtain ⟨p, hp, h⟩ := Option.bind_eq_some_iff.mp h
  obtain ⟨ps, hps, heq⟩ := Option.map_eq_some_iff.mp h
  exact ⟨p, ps, hp, hps, heq.symm⟩

/-- The payloads of some pages are page payloads. -/
theorem mem_pagePayloads {t : Tables} {hostPage : Int} {pages : List Page}
    {payloads : List (List UInt8)} (h : pagePayloads t hostPage pages = some payloads)
    {p : List UInt8} (hp : p ∈ payloads) : ∃ q, pagePayload q t hostPage = some p := by
  induction pages generalizing payloads with
  | nil =>
    cases h
    exact absurd hp List.not_mem_nil
  | cons page pages ih =>
    obtain ⟨first, rest, hfirst, hrest, rfl⟩ := pagePayloads_cons_eq_some h
    rcases List.mem_cons.mp hp with rfl | hp
    · exact ⟨page, hfirst⟩
    · exact ih hrest hp

/-- Each of the pages is among them. -/
theorem exists_pagePayload_of_mem {t : Tables} {hostPage : Int} {pages : List Page}
    {payloads : List (List UInt8)} (h : pagePayloads t hostPage pages = some payloads) {q : Page}
    (hq : q ∈ pages) : ∃ p ∈ payloads, pagePayload q t hostPage = some p := by
  induction pages generalizing payloads with
  | nil => exact absurd hq List.not_mem_nil
  | cons page pages ih =>
    obtain ⟨first, rest, hfirst, hrest, rfl⟩ := pagePayloads_cons_eq_some h
    rcases List.mem_cons.mp hq with rfl | hq
    · exact ⟨first, List.mem_cons_self, hfirst⟩
    · obtain ⟨p, hp, hpayload⟩ := ih hrest hq
      exact ⟨p, List.mem_cons_of_mem first hp, hpayload⟩

/-- Hand payloads to `frame_send` one after the other. -/
def Daemon.sendAll (d : Daemon) (payloads : List (List UInt8)) : Daemon :=
  { d with sent := d.sent ++ payloads }

theorem Daemon.sendAll_sendAll (d : Daemon) (xs ys : List (List UInt8)) :
    (d.sendAll xs).sendAll ys = d.sendAll (xs ++ ys) := by
  unfold Daemon.sendAll
  rw [List.append_assoc]

/-- Sending the data of some pages, one after the other. -/
theorem sendPages_eq (pages : List Page) (d : Daemon) :
    pages.foldlM (fun d page => sendPageData page d) d =
      (pagePayloads d.tables d.gHostPage pages).map d.sendAll := by
  induction pages generalizing d with
  | nil =>
    show some d = some (d.sendAll [])
    unfold Daemon.sendAll
    rw [List.append_nil]
  | cons page pages ih =>
    rw [List.foldlM_cons, sendPageData_eq, pagePayloads]
    cases pagePayload page d.tables d.gHostPage with
    | none => rfl
    | some p =>
      show pages.foldlM _ (d.sendAll [p]) = ((pagePayloads _ _ pages).map (p :: ·)).map d.sendAll
      rw [ih, Option.map_map]
      congr 1
      funext ps
      exact Daemon.sendAll_sendAll d [p] ps

/-- A refresh sends the data of its pages and changes nothing else. -/
theorem pageRefresh_eq (d : Daemon) :
    pageRefresh d = (refreshPayloads d.gCurrentPage d.tables d.gHostPage).map d.sendAll := by
  have hfold : pageRefresh d =
      (refreshedPages d.gCurrentPage).foldlM (fun d page => sendPageData page d) d := by
    unfold pageRefresh
    cases d.gCurrentPage <;> simp [refreshedPages]
  rw [hfold, sendPages_eq]
  rfl

/-- A refresh and the switch to the current page. -/
theorem refreshAndSwitch_eq (d : Daemon) :
    refreshAndSwitch d =
      (refreshPayloads d.gCurrentPage d.tables d.gHostPage).map fun payloads =>
        d.sendAll (payloads ++ [requestSwitchPage d.gCurrentPage]) := by
  rw [refreshAndSwitch, pageRefresh_eq, Option.map_map]
  congr 1
  funext payloads
  show (d.sendAll payloads).sendAll [requestSwitchPage d.gCurrentPage] = _
  rw [Daemon.sendAll_sendAll]

/-- The tables after `page_update` on a page. -/
def updatedTables (env : ScriptEnv) (page : Page) (t : Tables) : Tables :=
  match page with
  | .wan => (updatePageInfo env .wifi (updatePageInfo env .wan t).2).2
  | page => (updatePageInfo env page t).2

theorem pageUpdate_eq (env : ScriptEnv) (d : Daemon) :
    pageUpdate env d = { d with tables := updatedTables env d.gCurrentPage d.tables } := by
  rcases d with ⟨t, hostPage, page, on, time, version, exited, sent⟩
  cases page <;> rfl

/-! ## Moves -/

/-- The three functions that move between pages. -/
inductive Nav where
  | next
  | prev
  | toWan
deriving DecidableEq, Repr

def Nav.apply : Nav → Daemon → Option Daemon
  | .next => pageSwitchNext
  | .prev => pageSwitchPrev
  | .toWan => pageSwitchTo Page.wan.code

/-- Where a move leads from a page and a host page, with `count` hosts. -/
def Nav.target (nav : Nav) (count : Int) (page : Page) (hostPage : Int) : Option (Page × Int) :=
  match nav, page with
  | .toWan, _ => some (.wan, 0)
  | .next, .hosts =>
    if count - (hostPage + 1) * HOSTS_PER_PAGE > 0 then some (.hosts, hostPage + 1) else none
  | .next, page => some (page.succ, hostPage)
  | .prev, .basicInfo => none
  | .prev, .hosts => if hostPage > 0 then some (.hosts, hostPage - 1) else some (.wifi, hostPage)
  | .prev, page => some (page.pred, hostPage)

/-- A move goes to its target and sends it, or it does nothing. -/
theorem Nav.apply_eq (nav : Nav) (d : Daemon) :
    nav.apply d =
      match nav.target (getHostsCount d) d.gCurrentPage d.gHostPage with
      | some (page, hostPage) =>
        refreshAndSwitch { d with gCurrentPage := page, gHostPage := hostPage }
      | none => some d := by
  rcases d with ⟨t, hostPage, page, on, time, version, exited, sent⟩
  cases nav with
  | toWan => rfl
  | next =>
    cases page with
    | hosts =>
      show (if _ then _ else _) = _
      unfold Nav.target
      dsimp only
      split <;> rfl
    | _ => rfl
  | prev =>
    cases page with
    | hosts =>
      show (if _ then _ else _) = _
      unfold Nav.target
      dsimp only
      split <;> rfl
    | _ => rfl

end K3ScreenCtrl
