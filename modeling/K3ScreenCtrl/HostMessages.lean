import K3ScreenCtrl.HostFields

/-!
# Reading the host pages back

The screen knows the host table only from the messages of
`request_update_hosts_paged`.  Each of them says how many hosts there are and
which page it is, and its five slots are numbered from that
(`readHostPage`).

The two numbers are bytes of the message, and the code narrows `int`s to them.
`pagesInvertible_iff` says when the messages still give the table back: as long
as a byte can count the hosts.
-/

namespace K3ScreenCtrl

open CString Cursor Pieces

/-! ## What a message says -/

/-- `total_hosts`, behind the two bytes of the request. -/
def totalHostsOf (payload : List UInt8) : Nat := (payload.getD 2 0).toNat

/-- `current_page_index`. -/
def currentPageIndexOf (payload : List UInt8) : Nat := (payload.getD 3 0).toNat

/-- The number of the host in slot `j`. -/
def slotNumber (payload : List UInt8) (j : Nat) : Nat :=
  HOSTS_PER_PAGE * currentPageIndexOf payload + j

/-- The bytes of slot `j`. -/
def slotBytes (payload : List UInt8) (j : Nat) : List UInt8 :=
  (payload.drop (2 + 4 + 48 * j)).take 48

/-- The hosts that a message carries, with their numbers: a slot is present if
its number is below the total. -/
def readHostPage (payload : List UInt8) : List (Nat × List UInt8) :=
  ((List.range HOSTS_PER_PAGE).filter fun j => slotNumber payload j < totalHostsOf payload).map
    fun j => (slotNumber payload j, slotBytes payload j)

/-- The messages for `start` = 0, 5, 10 and so on below `n`. -/
def hostMessages (t : Tables) (n : Nat) : Option (List (List UInt8)) :=
  (List.range ((n + 4) / 5)).mapM fun k : Nat =>
    requestUpdateHostsPaged t.gHostInfoArray t.gHostInfoElements.toInt32.toInt
      (k * HOSTS_PER_PAGE)

/-- The hosts and their numbers. -/
def numberedHosts (hosts : List HostInfoSingle) : List (Nat × List UInt8) :=
  (List.range hosts.length).map fun i => (i, (hosts.getD i .zero).bytes)

/-- The messages of a table, read one after the other, give its hosts, each
once and in order. -/
def PagesInvertible (t : Tables) (hosts : List HostInfoSingle) : Prop :=
  (hostMessages t hosts.length).map (fun messages => messages.flatMap readHostPage) =
    some (numberedHosts hosts)

/-! ## The header -/

/-- A table that holds its hosts has a message for every page. -/
theorem Tables.HoldsHosts.hostMessages_eq {t : Tables} {hosts : List HostInfoSingle}
    (ht : t.HoldsHosts hosts) (n : Nat) :
    hostMessages t n = some ((List.range ((n + 4) / 5)).map (hostPageRequest hosts)) := by
  have hpage : ∀ k : Nat, requestUpdateHostsPaged t.gHostInfoArray
      t.gHostInfoElements.toInt32.toInt (k * HOSTS_PER_PAGE) = some (hostPageRequest hosts k) :=
    fun k => hostPagePayload_eq ht k
  unfold hostMessages
  simp only [hpage]
  exact List.mapM_pure

/-- The total is the number of hosts, as a byte. -/
theorem totalHostsOf_hostPageRequest (hosts : List HostInfoSingle) (k : Nat) :
    totalHostsOf (hostPageRequest hosts k) = hosts.length % 256 := by
  show (UInt8.ofInt hosts.length).toNat = _
  rw [UInt8.ofInt, UInt8.toNat_ofNat']
  omega

/-- The index is the number of the page, as a byte. -/
theorem currentPageIndexOf_hostPageRequest (hosts : List HostInfoSingle) (k : Nat) :
    currentPageIndexOf (hostPageRequest hosts k) = k % 256 := by
  show (UInt8.ofInt k).toNat = _
  rw [UInt8.ofInt, UInt8.toNat_ofNat']
  omega

/-! ## Tables that a byte can count -/

theorem filter_add_lt (m a n : Nat) :
    (List.range m).filter (fun j => a + j < n) = List.range (min m (n - a)) := by
  induction m with
  | zero => simp
  | succ m ih =>
    rw [List.range_succ, List.filter_append, ih]
    by_cases hin : a + m < n
    · have hnew : min (m + 1) (n - a) = min m (n - a) + 1 := by omega
      have hlast : min m (n - a) = m := by omega
      rw [hnew, List.range_succ, hlast]
      simp [hin]
    · have hsame : min (m + 1) (n - a) = min m (n - a) := by omega
      rw [hsame]
      simp [hin]

/-- A message of such a table is read as its page of the table. -/
theorem readHostPage_hostPageRequest {hosts : List HostInfoSingle} (hn : hosts.length ≤ 255)
    {k : Nat} (hk : k < (hosts.length + 4) / 5) :
    readHostPage (hostPageRequest hosts k) = pageOf HOSTS_PER_PAGE (numberedHosts hosts) k := by
  have htotal : totalHostsOf (hostPageRequest hosts k) = hosts.length := by
    rw [totalHostsOf_hostPageRequest, Nat.mod_eq_of_lt (by omega)]
  have hindex : currentPageIndexOf (hostPageRequest hosts k) = k := by
    rw [currentPageIndexOf_hostPageRequest, Nat.mod_eq_of_lt (by omega)]
  have hlength : (numberedHosts hosts).length = hosts.length := by
    rw [numberedHosts, List.length_map, List.length_range]
  unfold readHostPage slotNumber
  rw [htotal, hindex, filter_add_lt, ← map_range_getD_eq_pageOf _ _ _ (0, []), hlength]
  apply List.map_congr_left
  intro j hj
  have hlt := List.mem_range.mp hj
  have hin : HOSTS_PER_PAGE * k + j < hosts.length := by omega
  have hslot : slotBytes (hostPageRequest hosts k) j =
      (hosts.getD (HOSTS_PER_PAGE * k + j) .zero).bytes := by
    have hpage : (HOSTS_PER_PAGE * k + j) / HOSTS_PER_PAGE = k := by
      unfold HOSTS_PER_PAGE at hlt ⊢
      omega
    have hplace : (HOSTS_PER_PAGE * k + j) % HOSTS_PER_PAGE = j := by
      unfold HOSTS_PER_PAGE at hlt ⊢
      omega
    have hread := hostPageRequest_slot (List.getElem?_eq_getElem hin)
    rw [hpage, hplace] at hread
    rw [List.getD_eq_getElem?_getD, List.getElem?_eq_getElem hin]
    exact hread
  rw [hslot]
  simp [numberedHosts, List.getD_eq_getElem?_getD, hin]

theorem pagesInvertible_of_le {t : Tables} {hosts : List HostInfoSingle} (ht : t.HoldsHosts hosts)
    (hn : hosts.length ≤ 255) : PagesInvertible t hosts := by
  have hlength : (numberedHosts hosts).length = hosts.length := by
    rw [numberedHosts, List.length_map, List.length_range]
  have hpages : (List.range ((hosts.length + 4) / 5)).flatMap
      (fun k => readHostPage (hostPageRequest hosts k)) =
        (List.range ((hosts.length + 4) / 5)).flatMap
          (pageOf HOSTS_PER_PAGE (numberedHosts hosts)) := by
    apply List.flatMap_congr
    intro k hk
    exact readHostPage_hostPageRequest hn (List.mem_range.mp hk)
  unfold PagesInvertible
  rw [ht.hostMessages_eq, Option.map_some, List.flatMap_map, hpages, flatMap_pageOf]
  rw [hlength]
  unfold HOSTS_PER_PAGE
  omega

/-! ## Longer tables -/

/-- No message carries a host with a number from 255 on. -/
theorem number_lt_of_mem_readHostPage {payload : List UInt8} {host : Nat × List UInt8}
    (h : host ∈ readHostPage payload) : host.1 < 255 := by
  obtain ⟨j, hj, hhost⟩ := List.mem_map.mp h
  have hpresent := (List.mem_filter.mp hj).2
  have htotal : totalHostsOf payload < 256 := (payload.getD 2 0).toNat_lt
  have hlt : slotNumber payload j < totalHostsOf payload := of_decide_eq_true hpresent
  rw [← hhost]
  omega

theorem le_of_pagesInvertible {t : Tables} {hosts : List HostInfoSingle} (ht : t.HoldsHosts hosts)
    (h : PagesInvertible t hosts) : hosts.length ≤ 255 := by
  by_contra hlong
  -- host number 255 is in the table, and in no message
  have hmem : (255, (hosts.getD 255 .zero).bytes) ∈ numberedHosts hosts :=
    List.mem_map.mpr ⟨255, List.mem_range.mpr (by omega), rfl⟩
  unfold PagesInvertible at h
  rw [ht.hostMessages_eq, Option.map_some, Option.some_inj] at h
  rw [← h] at hmem
  rcases List.mem_flatMap.mp hmem with ⟨payload, _, hread⟩
  exact absurd (number_lt_of_mem_readHostPage hread) (by omega)

/-- The messages give the table back exactly when a byte can count its hosts. -/
theorem pagesInvertible_iff (t : Tables) (hosts : List HostInfoSingle) (ht : t.HoldsHosts hosts) :
    PagesInvertible t hosts ↔ hosts.length ≤ 255 :=
  ⟨le_of_pagesInvertible ht, pagesInvertible_of_le ht⟩

theorem pagesInvertible_iff_sixHosts :
    ∃ hosts, hosts.length = 6 ∧
      (PagesInvertible (tablesAfter [sixHostsUpdate]) hosts ↔ hosts.length ≤ 255) := by
  obtain ⟨hosts, hholds⟩ : ∃ hosts, (tablesAfter [sixHostsUpdate]).HoldsHosts hosts :=
    exists_holdsHosts_tablesAfter (by simp [sixHostsUpdate])
  have hsix : (tablesAfter [sixHostsUpdate]).gHostInfoElements.toInt32.toInt = 6 := by
    decide +kernel
  have hlength := hholds.count
  rw [hsix] at hlength
  exact ⟨hosts, by omega, pagesInvertible_iff _ _ hholds⟩

/-- A documented listing of 257 hosts, of which the updater counts 256. -/
def manyHosts : HostListFields where
  count :=
    { digits := [0x32, 0x35, 0x37]
      value := 257
      isNumeral := ⟨List.cons_ne_nil _ _, List.all_eq_true.mp rfl, rfl⟩
      value_lt := by omega }
  hosts := List.replicate 257 (hostA zeroField zeroField)
  count_eq := List.length_replicate.symm

/-- The host script prints that listing. -/
def manyHostsEnv : ScriptEnv where
  script := fun _ =>
    { output := some
        { str := manyHosts.text
          nul_not_mem := by decide +kernel
          length_lt := by decide +kernel }
      overlay := fun _ => none }
  hostBlock := some fun _ => .zero

/-- The total of 256 hosts is 0 as a byte, and the screen reads no host. -/
theorem pagesInvertible_counterexample :
    ¬ ∀ (updates : List (ScriptEnv × Page)) (hosts : List HostInfoSingle),
        (∀ u ∈ updates, u.1.hostBlock.isSome) → (tablesAfter updates).HoldsHosts hosts →
          PagesInvertible (tablesAfter updates) hosts := by
  intro hall
  have hmany : manyHosts.hosts.length = 257 := List.length_replicate
  obtain ⟨hosts, hholds, hlength⟩ : ∃ hosts,
      (tablesAfter [(manyHostsEnv, .hosts)]).HoldsHosts hosts ∧ hosts.length = 257 - 1 := by
    have hresult := holdsHosts_updateHostInfo manyHosts
      (show (manyHostsEnv.script .hosts).output = some _ from rfl) rfl (fun _ => .zero) .init
      (List.cons_ne_nil _ _)
    rw [hmany] at hresult
    rcases hresult.2 with ⟨hosts, hholds, hlength, _⟩
    exact ⟨hosts, hholds, hlength⟩
  have hinvertible := hall [(manyHostsEnv, .hosts)] hosts (by simp [manyHostsEnv]) hholds
  have hle := le_of_pagesInvertible hholds hinvertible
  omega

end K3ScreenCtrl
