import K3ScreenCtrl.Lib.Cursor
import K3ScreenCtrl.Lib.Run
import K3ScreenCtrl.TableInvariants

/-!
# Navigation

The two variables `g_current_page` and `g_host_page` encode one position on a
line: the four fixed pages, and then the host pages.  The three functions that
move between pages are a cursor on that line.

* `positions n` is the line for a table of `n` hosts.
* `Nav.target_eq` is one move: it leads to the neighbour, or nowhere at an end.
* `Tables.HoldsHosts` relates the host table to a list of hosts, and
  `exists_holdsHosts_tablesAfter` says that every table the updaters leave holds
  one.
* `hostPagePayload_eq` is the message that a host page sends.
* `AtPlace.apply` is one move of the daemon, and `navigation` is every sequence
  of moves.
-/

namespace K3ScreenCtrl

open CString Cursor

/-! ## The line of pages -/

/-- The number of host pages, at least one. -/
def hostPageCount (n : Nat) : Nat := max 1 ((n + 4) / 5)

/-- The positions for a table of `n` hosts, in order. -/
def positions (n : Nat) : List (Page × Int) :=
  [(.basicInfo, 0), (.ports, 0), (.wan, 0), (.wifi, 0)] ++
    (List.range (hostPageCount n)).map fun k : Nat => (.hosts, (k : Int))

/-- The position at a place on the line. -/
def positionAt : Nat → Page × Int
  | 0 => (.basicInfo, 0)
  | 1 => (.ports, 0)
  | 2 => (.wan, 0)
  | 3 => (.wifi, 0)
  | k + 4 => (.hosts, (k : Int))

/-- The place of the page that is shown first. -/
def wanPlace : Nat := 2

@[simp] theorem length_positions (n : Nat) : (positions n).length = 4 + hostPageCount n := by
  simp [positions]
  omega

theorem positions_getElem? {n i : Nat} (h : i < (positions n).length) :
    (positions n)[i]? = some (positionAt i) := by
  rw [length_positions] at h
  unfold positions
  rcases i with _ | _ | _ | _ | k
  · rfl
  · rfl
  · rfl
  · rfl
  · have hk : k < hostPageCount n := by omega
    rw [List.getElem?_append_right (by simp)]
    show ((List.range (hostPageCount n)).map fun k : Nat => (Page.hosts, (k : Int)))[k]? = _
    rw [List.getElem?_map, List.getElem?_range hk]
    rfl

theorem positionAt_injective {i j : Nat} (h : positionAt i = positionAt j) : i = j := by
  rcases i with _ | _ | _ | _ | i <;> rcases j with _ | _ | _ | _ | j <;>
    simp [positionAt] at h <;> omega

/-- The move of a cursor that a navigation function makes. -/
def Nav.toMove : Nav → Move
  | .next => .right
  | .prev => .left
  | .toWan => .jump wanPlace

theorem Nav.toMove_fits (nav : Nav) (n : Nat) : nav.toMove.Fits (positions n).length := by
  cases nav with
  | toWan =>
    show wanPlace < _
    rw [length_positions]
    unfold wanPlace
    omega
  | next => exact trivial
  | prev => exact trivial

/-- The place after a list of moves. -/
def placeAfter (n : Nat) (place : Nat) (navs : List Nav) : Nat :=
  navs.foldl (fun i nav => move (positions n).length nav.toMove i) place

/-- A move leads to the neighbour, or nowhere at an end of the line. -/
theorem Nav.target_eq {n i : Nat} (hi : i < (positions n).length) (nav : Nav) :
    (nav.target n (positionAt i).1 (positionAt i).2 = none ∧
        move (positions n).length nav.toMove i = i) ∨
      nav.target n (positionAt i).1 (positionAt i).2 =
        some (positionAt (move (positions n).length nav.toMove i)) := by
  rw [length_positions] at hi ⊢
  have hpages : 1 ≤ hostPageCount n := Nat.le_max_left _ _
  cases nav with
  | toWan => exact Or.inr rfl
  | prev =>
    show (Nav.prev.target _ _ _ = none ∧ move _ .left i = i) ∨
      Nav.prev.target _ _ _ = some (positionAt (move _ .left i))
    rw [move_left]
    rcases i with _ | _ | _ | _ | _ | k
    · exact Or.inl ⟨rfl, rfl⟩
    · exact Or.inr rfl
    · exact Or.inr rfl
    · exact Or.inr rfl
    · exact Or.inr rfl
    · right
      have hpos : ((k + 1 : Nat) : Int) > 0 := by omega
      have hpred : ((k + 1 : Nat) : Int) - 1 = k := by omega
      refine (if_pos hpos).trans ?_
      show some (Page.hosts, ((k + 1 : Nat) : Int) - 1) = some (Page.hosts, (k : Int))
      rw [hpred]
  | next =>
    show (Nav.next.target _ _ _ = none ∧ move _ .right i = i) ∨
      Nav.next.target _ _ _ = some (positionAt (move _ .right i))
    rw [move_right]
    rcases i with _ | _ | _ | _ | k
    · rw [if_pos (by omega)]
      exact Or.inr rfl
    · rw [if_pos (by omega)]
      exact Or.inr rfl
    · rw [if_pos (by omega)]
      exact Or.inr rfl
    · rw [if_pos (by omega)]
      exact Or.inr rfl
    · -- on the host pages the bound of the code is the number of pages
      have hbound : (n : Int) - ((k : Int) + 1) * HOSTS_PER_PAGE > 0 ↔
          k + 4 + 1 < 4 + hostPageCount n := by
        unfold HOSTS_PER_PAGE hostPageCount
        omega
      by_cases hlast : k + 4 + 1 < 4 + hostPageCount n
      · right
        rw [if_pos hlast]
        exact if_pos (hbound.mpr hlast)
      · left
        rw [if_neg hlast]
        refine ⟨?_, rfl⟩
        exact if_neg fun h => hlast (hbound.mp h)

/-! ## Host pages -/

/-- The host table holds a list of hosts: the code counts them, as an `int`, and
finds each of them in the block. -/
structure Tables.HoldsHosts (t : Tables) (hosts : List HostInfoSingle) : Prop where
  count : t.gHostInfoElements.toInt32.toInt = hosts.length
  read : ∀ k (hk : k < hosts.length), readHost t.gHostInfoArray (k : Int) = some hosts[k]

theorem length_hostPage (hosts : List HostInfoSingle) (k : Nat) :
    (pageOf HOSTS_PER_PAGE hosts k).length ≤ HOSTS_PER_PAGE := by
  rw [length_pageOf]
  exact Nat.min_le_left _ _

/-- The structure for host page `k`: the records from `5 * k` on in order, and
zero records behind them. -/
def hostPageInfo (hosts : List HostInfoSingle) (k : Nat) : HostInfo :=
  HostInfo.page (UInt8.ofInt hosts.length) (UInt8.ofInt k) (pageOf HOSTS_PER_PAGE hosts k)
    (length_hostPage hosts k)

/-- Slot `i` of host page `k` holds record `5 * k + i`, or zeros behind the last
record. -/
theorem hostPageInfo_getElem? (hosts : List HostInfoSingle) (k : Nat) {i : Nat}
    (hi : i < HOSTS_PER_PAGE) :
    (hostPageInfo hosts k).hostInfo[i]? = some (hosts.getD (HOSTS_PER_PAGE * k + i) .zero) := by
  have hlen := length_pageOf HOSTS_PER_PAGE hosts k
  show (pageOf HOSTS_PER_PAGE hosts k ++ List.replicate _ HostInfoSingle.zero)[i]? = _
  rw [List.getD_eq_getElem?_getD]
  by_cases hin : HOSTS_PER_PAGE * k + i < hosts.length
  · have hslot : i < (pageOf HOSTS_PER_PAGE hosts k).length := by omega
    rw [List.getElem?_append_left hslot, pageOf, List.getElem?_take_of_lt hi, List.getElem?_drop,
      List.getElem?_eq_getElem hin]
    rfl
  · have hslot : (pageOf HOSTS_PER_PAGE hosts k).length ≤ i := by omega
    rw [List.getElem?_append_right hslot, List.getElem?_replicate, if_pos (by omega),
      List.getElem?_eq_none (by omega)]
    rfl

/-- The slots of page `k` that hold a record. -/
def usedSlots (hosts : List HostInfoSingle) (k : Nat) : List HostInfoSingle :=
  (hostPageInfo hosts k).hostInfo.take (hosts.length - HOSTS_PER_PAGE * k)

/-- The records on the pages in order are the hosts. -/
theorem flatMap_usedSlots (hosts : List HostInfoSingle) :
    (List.range (hostPageCount hosts.length)).flatMap (usedSlots hosts) = hosts := by
  have hused : usedSlots hosts = pageOf HOSTS_PER_PAGE hosts := by
    funext k
    have hlen := length_pageOf HOSTS_PER_PAGE hosts k
    show (pageOf HOSTS_PER_PAGE hosts k ++ List.replicate _ _).take _ = _
    by_cases hfull : HOSTS_PER_PAGE ≤ hosts.length - HOSTS_PER_PAGE * k
    · rw [hlen, Nat.min_eq_left hfull, Nat.sub_self, List.replicate_zero, List.append_nil,
        List.take_of_length_le (by omega)]
    · rw [List.take_left' (by omega)]
  rw [hused]
  apply flatMap_pageOf
  unfold HOSTS_PER_PAGE hostPageCount
  omega

/-- The request for host page `k`. -/
def hostPageRequest (hosts : List HostInfoSingle) (k : Nat) : List UInt8 :=
  requestSendRaw .updateHostsPaged (hostPageInfo hosts k).bytes

/-- A table with room for the records it counts holds a list of hosts. -/
theorem Tables.exists_holdsHosts {t : Tables} (hfit : t.HostsFit)
    (hcount : t.gHostInfoElements.toNat < 2 ^ 31) : ∃ hosts, t.HoldsHosts hosts := by
  have hint : t.gHostInfoElements.toInt32.toInt = t.gHostInfoElements.toNat := by
    rw [toInt_toInt32, if_pos (by omega)]
  unfold Tables.HostsFit Tables.hostCapacity at hfit
  cases harray : t.gHostInfoArray with
  | none =>
    simp only [harray] at hfit
    refine ⟨[], ?_, ?_⟩
    · rw [hint, List.length_nil]
      omega
    · intro k hk
      exact absurd hk (Nat.not_lt_zero k)
  | some a =>
    simp only [harray] at hfit
    refine ⟨(List.range t.gHostInfoElements.toNat).map a.record, ?_, ?_⟩
    · rw [hint, List.length_map, List.length_range]
    · intro k hk
      rw [List.length_map, List.length_range] at hk
      rw [harray, List.getElem_map, List.getElem_range]
      show (if _ then _ else _) = _
      rw [if_pos (by omega)]
      rfl

/-- So does the table that any updates leave, as long as every allocation is
granted: the outputs are too short for more hosts than an `int` can count. -/
theorem exists_holdsHosts_tablesAfter {updates : List (ScriptEnv × Page)}
    (halloc : ∀ u ∈ updates, u.1.hostBlock.isSome) :
    ∃ hosts, (tablesAfter updates).HoldsHosts hosts := by
  have hfit : (tablesAfter updates).HostsFit :=
    updateTables_invariant (fun _ u hu ht => ht.updatePageInfo hu u.2) halloc Tables.hostsFit_init
  have hcount : (tablesAfter updates).gHostInfoElements.toNat < SCRIPT_OUTPUT_BUFFER_SIZE :=
    updateTables_invariant (P := fun t => t.gHostInfoElements.toNat < SCRIPT_OUTPUT_BUFFER_SIZE)
      (fun _ u hu ht => gHostInfoElements_lt hu u.2 ht) halloc (by decide)
  exact Tables.exists_holdsHosts hfit (Nat.lt_trans hcount (by decide))

/-- What a host page sends. -/
theorem hostPagePayload_eq {t : Tables} {hosts : List HostInfoSingle} (h : t.HoldsHosts hosts)
    (k : Nat) :
    pagePayload .hosts t k = some (hostPageRequest hosts k) := by
  have hlen : (copylen hosts.length ((k : Int) * HOSTS_PER_PAGE)).toNat =
      min HOSTS_PER_PAGE (hosts.length - HOSTS_PER_PAGE * k) := by
    unfold copylen HOSTS_PER_PAGE
    split <;> omega
  have hread : ∀ i < (copylen hosts.length ((k : Int) * HOSTS_PER_PAGE)).toNat,
      readHost t.gHostInfoArray ((k : Int) * HOSTS_PER_PAGE + i) =
        some (hosts.getD (HOSTS_PER_PAGE * k + i) .zero) := by
    intro i hi
    rw [hlen] at hi
    have hin : HOSTS_PER_PAGE * k + i < hosts.length := by omega
    have hcast : (k : Int) * HOSTS_PER_PAGE + i = ((HOSTS_PER_PAGE * k + i : Nat) : Int) := by
      rw [Int.natCast_add, Int.natCast_mul, Int.mul_comm]
    rw [hcast, h.read _ hin, List.getD_eq_getElem?_getD, List.getElem?_eq_getElem hin]
    rfl
  show requestUpdateHostsPaged _ _ _ = _
  rw [h.count, requestUpdateHostsPaged_eq _ hread]
  simp only [hlen, tdiv_hostsPerPage, map_range_getD_eq_pageOf]
  rfl

/-! ## One move -/

/-- The daemon shows the page at place `i`, with tables that do not change. -/
structure AtPlace (t : Tables) (n : Nat) (d : Daemon) (i : Nat) : Prop where
  tables : d.tables = t
  lt : i < (positions n).length
  page : d.gCurrentPage = (positionAt i).1
  hostPage : d.gHostPage = (positionAt i).2

/-- The page that is shown. -/
def position (d : Daemon) : Page × Int := (d.gCurrentPage, d.gHostPage)

theorem AtPlace.position_eq {t : Tables} {n : Nat} {d : Daemon} {i : Nat} (h : AtPlace t n d i) :
    position d = positionAt i := by
  unfold position
  rw [h.page, h.hostPage]

/-- Every place of the line can be sent, and a host page sends its request. -/
theorem refreshPayloads_positionAt {t : Tables} {hosts : List HostInfoSingle}
    (h : t.HoldsHosts hosts) (i : Nat) :
    ∃ payloads, refreshPayloads (positionAt i).1 t (positionAt i).2 = some payloads ∧
      ∀ k, i = k + 4 → payloads = [hostPageRequest hosts k] := by
  rcases i with _ | _ | _ | _ | k
  · exact ⟨_, rfl, by intro k hk; omega⟩
  · exact ⟨_, rfl, by intro k hk; omega⟩
  · exact ⟨_, rfl, by intro k hk; omega⟩
  · exact ⟨_, rfl, by intro k hk; omega⟩
  · refine ⟨[hostPageRequest hosts k], ?_, ?_⟩
    · show pagePayloads t k [.hosts] = _
      rw [pagePayloads, hostPagePayload_eq h]
      rfl
    · intro k' hk'
      have heq : k' = k := by omega
      rw [heq]

/-- A move takes the daemon where it takes the cursor.  Arriving on a host page
sends that page and the switch to it. -/
theorem AtPlace.apply {t : Tables} {hosts : List HostInfoSingle} (ht : t.HoldsHosts hosts)
    {d : Daemon} {i : Nat} (h : AtPlace t hosts.length d i) (nav : Nav) :
    ∃ d', nav.apply d = some d' ∧
      AtPlace t hosts.length d' (move (positions hosts.length).length nav.toMove i) ∧
      ∀ k, move (positions hosts.length).length nav.toMove i = k + 4 → position d' ≠ position d →
        d'.sent = d.sent ++ [hostPageRequest hosts k, requestSwitchPage .hosts] := by
  have hcount : getHostsCount d = hosts.length := by
    unfold getHostsCount
    rw [h.tables, ht.count]
  have hmove := move_lt (nav.toMove_fits hosts.length) h.lt
  rw [Nav.apply_eq, hcount, h.page, h.hostPage]
  rcases Nav.target_eq h.lt nav with ⟨hnone, hstay⟩ | hsome
  · rw [hnone, hstay]
    refine ⟨d, rfl, h, ?_⟩
    intro k _ hne
    exact absurd rfl hne
  · rw [hsome]
    generalize hj : move (positions hosts.length).length nav.toMove i = j at hmove
    obtain ⟨payloads, hpayloads, hhosts⟩ := refreshPayloads_positionAt ht j
    dsimp only
    rw [refreshAndSwitch_eq]
    dsimp only
    rw [h.tables, hpayloads]
    refine ⟨_, rfl, ⟨rfl, hmove, rfl, rfl⟩, ?_⟩
    intro k hk _
    rw [hhosts k hk, hk]
    rfl

/-! ## Every sequence of moves -/

/-- One move. -/
def navStep (d : Daemon) (nav : Nav) : Option Daemon := nav.apply d

/-- A move that leads somewhere is taken back by another one. -/
def Undoes (back nav : Nav) (d : Daemon) : Prop :=
  ∀ d', nav.apply d = some d' → position d' ≠ position d →
    ∃ d'', back.apply d' = some d'' ∧ position d'' = position d

/-- If the cursor goes back to where it was, so does the daemon. -/
theorem AtPlace.undoes {t : Tables} {hosts : List HostInfoSingle} (ht : t.HoldsHosts hosts)
    {d : Daemon} {i : Nat} (h : AtPlace t hosts.length d i) {back nav : Nav}
    (hback : move (positions hosts.length).length nav.toMove i ≠ i →
      move (positions hosts.length).length back.toMove
        (move (positions hosts.length).length nav.toMove i) = i) : Undoes back nav d := by
  intro d' hd' hne
  obtain ⟨e, he, hplace, _⟩ := h.apply ht nav
  have heq : e = d' := Option.some.inj (he.symm.trans hd')
  rw [heq] at hplace
  have hmoved : move (positions hosts.length).length nav.toMove i ≠ i := by
    intro hstay
    rw [hstay] at hplace
    exact hne (hplace.position_eq.trans h.position_eq.symm)
  obtain ⟨d'', hd'', hplace'', _⟩ := hplace.apply ht back
  refine ⟨d'', hd'', ?_⟩
  rw [hback hmoved] at hplace''
  exact hplace''.position_eq.trans h.position_eq.symm

/-- The two requests of an arrival on host page `k`. -/
def arrivalRequests (hosts : List HostInfoSingle) (k : Nat) : List (List UInt8) :=
  [hostPageRequest hosts k, requestSwitchPage .hosts]

/-- Walking to the right from the WiFi page sends the host pages in order. -/
theorem AtPlace.walkRight {t : Tables} {hosts : List HostInfoSingle} (ht : t.HoldsHosts hosts)
    {d : Daemon} (h : AtPlace t hosts.length d 3) :
    ∀ m ≤ hostPageCount hosts.length, ∃ d', Run.run navStep d (List.replicate m .next) = some d' ∧
      AtPlace t hosts.length d' (3 + m) ∧
      d'.sent = d.sent ++ (List.range m).flatMap (arrivalRequests hosts) := by
  intro m
  induction m with
  | zero =>
    intro _
    refine ⟨d, rfl, h, ?_⟩
    rw [List.range_zero, List.flatMap_nil, List.append_nil]
  | succ m ih =>
    intro hm
    obtain ⟨e, hrun, hplace, hsent⟩ := ih (by omega)
    obtain ⟨d', hd', hplace', harrive⟩ := hplace.apply ht .next
    have hright : move (positions hosts.length).length Nav.next.toMove (3 + m) = m + 4 := by
      show move _ .right (3 + m) = _
      rw [move_right, length_positions, if_pos (by omega)]
      omega
    have hne : position d' ≠ position e := by
      rw [hplace'.position_eq, hplace.position_eq, hright]
      intro heq
      have := positionAt_injective heq
      omega
    refine ⟨d', ?_, ?_, ?_⟩
    · rw [List.replicate_succ', Run.run_concat_of_eq hrun]
      exact hd'
    · rw [hright] at hplace'
      rw [show 3 + (m + 1) = m + 4 by omega]
      exact hplace'
    · rw [harrive m hright hne, hsent, List.range_succ, List.flatMap_append,
        List.flatMap_singleton, List.append_assoc]
      rfl

/-- What holds of the daemon after some moves from the WAN page, with a table
of hosts that does not change. -/
structure Navigates (hosts : List HostInfoSingle) (navs : List Nav) (d d' : Daemon) : Prop where
  /-- The table is still the same. -/
  tables : d'.tables = d.tables
  /-- The two variables are the cursor after those moves. -/
  cursor : (positions hosts.length)[placeAfter hosts.length wanPlace navs]? = some (position d')
  /-- The host page is 0 on the other pages. -/
  hostPage_eq_zero : d'.gCurrentPage ≠ .hosts → d'.gHostPage = 0
  undo_next : Undoes .prev .next d'
  undo_prev : Undoes .next .prev d'
  /-- Each arrival on a host page sends that page and switches to it. -/
  arrival : ∀ (nav : Nav) d'' (k : Nat), nav.apply d' = some d'' → position d'' ≠ position d' →
    position d'' = (.hosts, (k : Int)) → d''.sent = d'.sent ++ arrivalRequests hosts k
  /-- Walking right across the host pages sends each of them, in order. -/
  walk : position d' = (.wifi, 0) → ∃ d'',
    Run.run navStep d' (List.replicate (hostPageCount hosts.length) .next) = some d'' ∧
      d''.sent = d'.sent ++
        (List.range (hostPageCount hosts.length)).flatMap (arrivalRequests hosts)

theorem AtPlace.navigates {hosts : List HostInfoSingle} {navs : List Nav} {d d' : Daemon}
    (ht : d.tables.HoldsHosts hosts)
    (h : AtPlace d.tables hosts.length d' (placeAfter hosts.length wanPlace navs)) :
    Navigates hosts navs d d' := by
  generalize hi : placeAfter hosts.length wanPlace navs = i at h
  refine ⟨h.tables, ?_, ?_, ?_, ?_, ?_, ?_⟩
  · rw [hi, positions_getElem? h.lt, h.position_eq]
  · intro hpage
    rw [h.page] at hpage
    rw [h.hostPage]
    rcases i with _ | _ | _ | _ | k
    · rfl
    · rfl
    · rfl
    · rfl
    · exact absurd rfl hpage
  · exact h.undoes ht fun hne => move_left_right hne
  · exact h.undoes ht fun hne => move_right_left h.lt hne
  · intro nav d'' k hd'' hne hk
    obtain ⟨e, he, hplace, harrive⟩ := h.apply ht nav
    have heq : e = d'' := Option.some.inj (he.symm.trans hd'')
    rw [heq] at hplace harrive
    have hplaceK : move (positions hosts.length).length nav.toMove i = k + 4 :=
      positionAt_injective (hplace.position_eq.symm.trans hk)
    exact harrive k hplaceK hne
  · intro hwifi
    have hthree : i = 3 := positionAt_injective (h.position_eq.symm.trans hwifi)
    rw [hthree] at h
    obtain ⟨d'', hrun, _, hsent⟩ := h.walkRight ht _ (Nat.le_refl _)
    exact ⟨d'', hrun, hsent⟩

/-- From the WAN page every sequence of moves succeeds and is a cursor on the
line of pages.  Slot `i` of host page `k` holds record `5 * k + i` or zeros, and
the pages together carry every host once and in order. -/
theorem navigation (hosts : List HostInfoSingle) (d : Daemon) (ht : d.tables.HoldsHosts hosts)
    (hpage : d.gCurrentPage = .wan) (hhostPage : d.gHostPage = 0) (navs : List Nav) :
    (∃ d', Run.run navStep d navs = some d' ∧ Navigates hosts navs d d') ∧
      (∀ k i, i < HOSTS_PER_PAGE →
        (hostPageInfo hosts k).hostInfo[i]? = some (hosts.getD (HOSTS_PER_PAGE * k + i) .zero)) ∧
      (List.range (hostPageCount hosts.length)).flatMap (usedSlots hosts) = hosts := by
  have hwan : AtPlace d.tables hosts.length d wanPlace := by
    refine ⟨rfl, ?_, hpage, hhostPage⟩
    rw [length_positions]
    unfold wanPlace
    omega
  have hstep : ∀ s i nav, AtPlace d.tables hosts.length s i → ∃ s', navStep s nav = some s' ∧
      AtPlace d.tables hosts.length s' (move (positions hosts.length).length nav.toMove i) := by
    intro s i nav h
    obtain ⟨s', hs', hplace, _⟩ := h.apply ht nav
    exact ⟨s', hs', hplace⟩
  obtain ⟨d', hrun, hplace⟩ : ∃ d', Run.run navStep d navs = some d' ∧
      AtPlace d.tables hosts.length d' (placeAfter hosts.length wanPlace navs) :=
    Run.run_simulation hstep hwan
  exact ⟨⟨d', hrun, hplace.navigates ht⟩, fun k i hi => hostPageInfo_getElem? hosts k hi,
    flatMap_usedSlots hosts⟩

/-- A host listing of six hosts, with something behind the last one. -/
def sixHostsText : List UInt8 :=
  [0x36, NEWLINE] ++
    ((List.range 6).flatMap fun k : Nat =>
      [0x61 + UInt8.ofNat k, NEWLINE, 0x35, NEWLINE, 0x37, NEWLINE, 0x30, NEWLINE]) ++ [NEWLINE]

/-- The update of the host page from that listing. -/
def sixHostsUpdate : ScriptEnv × Page :=
  ({ script := fun _ => .ofText sixHostsText (by decide) (by decide)
     hostBlock := some fun _ => .zero }, .hosts)

theorem navigation_sixHosts :
    ∃ hosts d', hosts.length = 6 ∧
      Run.run navStep { Daemon.init with tables := tablesAfter [sixHostsUpdate] }
        [.next, .next, .next, .next, .prev, .toWan, .prev] = some d' ∧
      Navigates hosts [.next, .next, .next, .next, .prev, .toWan, .prev]
        { Daemon.init with tables := tablesAfter [sixHostsUpdate] } d' := by
  obtain ⟨hosts, hholds⟩ : ∃ hosts, (tablesAfter [sixHostsUpdate]).HoldsHosts hosts :=
    exists_holdsHosts_tablesAfter (by simp [sixHostsUpdate])
  have hsix : (tablesAfter [sixHostsUpdate]).gHostInfoElements.toInt32.toInt = 6 := by
    decide +kernel
  have hlength := hholds.count
  rw [hsix] at hlength
  obtain ⟨⟨d', hrun, hnav⟩, _⟩ := navigation hosts
    { Daemon.init with tables := tablesAfter [sixHostsUpdate] } hholds rfl rfl
    [.next, .next, .next, .next, .prev, .toWan, .prev]
  exact ⟨hosts, d', by omega, hrun, hnav⟩

end K3ScreenCtrl
