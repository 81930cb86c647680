import Mathlib.Algebra.Order.BigOperators.Group.List
import Mathlib.Algebra.Order.Ring.Nat
import K3ScreenCtrl.Lib.HeapUse
import K3ScreenCtrl.UpdateOrder

/-!
# Blocks on the heap

The updaters of `infocenter.c` and the senders of `requests.c` and `frame.c`, with
the blocks that they allocate: the output of a script, its tokens, the host table,
the command and the frame.  `heap_balanced` follows the blocks over any sequence of
updates and requests.  Between two of them only the host table is live, and
nothing is freed twice.  There are two kinds of touch that go wrong:

* the look at `*stopped_at` behind `free(out)`, once for each script of a fixed
  table that prints something;
* the copy of the hosts of a page out of a host table that was refused
  (`Tables.hostsMissing`), which is also where the model of the payloads stops
  (`pagePayload_of_hostsMissing`).

Allocations of the kinds `Site.Unchecked` have to be granted: the code compares
their pointers with `< 0`, or not at all.  The others may be refused.

One touch stands for all accesses to a block in a row, within it or behind its
end.
-/

namespace K3ScreenCtrl

open CString HeapUse Syscall

/-! ## Requests for blocks -/

/-- What a block is for: the output in `script_get_output`, a token of
`tokenize_and_store`, `g_host_info_array`, `cmdbuf` of `request_send_raw`, `buf` of
`frame_send`. -/
inductive Site where
  | scriptOutput
  | token
  | hostTable
  | command
  | frame
deriving DecidableEq

/-- The program does not notice a refusal. -/
def Site.Unchecked : Site → Prop
  | .scriptOutput | .token | .command => True
  | .hostTable | .frame => False

/-- A part of the program, up to its answer. -/
abbrev HeapProg (α : Type) : Type := Prog (HeapCall Site) Nat α

/-! ## `scripts.c` -/

/-- The run of a script: `popen` fails, nothing is printed, or a string, and then
what `free` writes over the block. -/
inductive ScriptCall where
  | notOpened
  | silent
  | printed (out : ScriptOutput) (overlay : Nat → Option UInt8)

/-- The run as the updaters see it. -/
def ScriptCall.run : ScriptCall → ScriptRun
  | .notOpened => { output := none, overlay := fun _ => none }
  | .silent => { output := none, overlay := fun _ => none }
  | .printed out overlay => { output := some out, overlay := overlay }

/-- The string in the block. -/
def ScriptCall.text : ScriptCall → List UInt8
  | .printed out _ => out.str
  | _ => []

/-- A byte of the block behind `free`. -/
def ScriptCall.byteAfterFree (c : ScriptCall) (offset : Nat) : UInt8 :=
  (c.run.overlay offset).getD (c.text.getD offset 0)

/-- `script_get_output`. -/
def scriptGetOutputHeap : ScriptCall → HeapProg Nat
  | .notOpened => return 0
  | .silent => do
    let ret ← call (.malloc .scriptOutput)
    -- `fread` reads nothing
    let _ ← call (.free ret)
    return 0
  | .printed _ _ => do
    let ret ← call (.malloc .scriptOutput)
    let _ ← call (.touch ret)
    return ret

/-! ## `infocenter.c` -/

section

variable {σ : Type}

/-- The block that a store points into, if it is one. -/
def touchTarget : Option Nat → HeapProg Unit
  | none => return ()
  | some p => do
    let _ ← call (.touch p)
    return ()

/-- `token_store`, of the token at `p`. -/
def tokenStoreHeap (target : Option Nat) (storeInfo : TokenStore σ) (p : Nat)
    (token : List UInt8) (s : σ) : HeapProg σ :=
  match storeInfo with
  | .stringNew put => do
    touchTarget target
    return put token s
  | storeInfo => do
    let _ ← call (.touch p)
    touchTarget target
    let _ ← call (.free p)
    return tokenStore storeInfo token s

/-- The `while` loop of `tokenize_and_store`, on a string in the block `str`. -/
def tokenizeLoopHeap (str : Nat) (target : Option Nat) (delim : UInt8) :
    List (TokenStore σ) → List UInt8 → σ → HeapProg (List UInt8 × List (TokenStore σ) × σ)
  | [], lastStart, s => return (lastStart, [], s)
  | store :: stores, lastStart, s => do
    let _ ← call (.touch str)
    match strchr lastStart delim with
    | none => return (lastStart, store :: stores, s)
    | some nextToken =>
      let currToken ← call (.malloc .token)
      let s ← tokenStoreHeap target store currToken (lastStart.take nextToken) s
      tokenizeLoopHeap str target delim stores (lastStart.drop (nextToken + 1)) s

/-- `tokenize_and_store`. -/
def tokenizeAndStoreHeap (str : Nat) (target : Option Nat) (text : List UInt8) (delim : UInt8)
    (stores : List (TokenStore σ)) (s : σ) : HeapProg (List UInt8 × σ) := do
  let looped ← tokenizeLoopHeap str target delim stores text s
  match looped with
  | (lastStart, [], s) => return (lastStart, s)
  | (lastStart, store :: _, s) =>
    let _ ← call (.touch str)
    if lastStart ≠ [] then
      let currToken ← call (.malloc .token)
      -- `strlen`
      let _ ← call (.touch currToken)
      let s ← tokenStoreHeap target store currToken lastStart s
      return ([], s)
    else return (lastStart, s)

end

/-- `update_storage_from_script`. -/
def updateStorageFromScriptHeap (c : ScriptCall) (stores : List (TokenStore Tables)) (t : Tables) :
    HeapProg (Status × Tables) := do
  let out ← scriptGetOutputHeap c
  if out = 0 then
    return (.failure, t)
  else
    let stopped ← tokenizeAndStoreHeap out none c.text NEWLINE stores t
    let _ ← call (.free out)
    -- `*stopped_at`
    let _ ← call (.touch out)
    let stoppedAt := c.byteAfterFree (c.text.length - stopped.1.length)
    return (if stoppedAt = 0 then .success else .failure, stopped.2)

/-- The `for` loop of `update_host_info`. -/
def updateHostLoopHeap (out hosts : Nat) : Nat → Nat → List UInt8 → Tables →
    HeapProg (Status × Tables)
  | 0, _, _, t => return (.success, t)
  | rounds + 1, i, currPos, t => do
    let stopped ← tokenizeAndStoreHeap out (some hosts) currPos NEWLINE (hostInfoTokens i) t
    -- `*curr_pos`
    let _ ← call (.touch out)
    if stopped.1 = [] then
      return (.failure, { stopped.2 with gHostInfoElements := UInt32.ofNat i })
    else updateHostLoopHeap out hosts rounds (i + 1) stopped.1 stopped.2

/-- `if (p != NULL) free(p);` -/
def freeIfAny (p : Nat) : HeapProg Unit := do
  if p ≠ 0 then
    let _ ← call (.free p)
    return ()
  else return ()

/-- `update_host_info`, from a pointer in `g_host_info_array`.  It answers the
pointer behind it as well.  `record` is what the records of a new block hold. -/
def updateHostInfoHeap (c : ScriptCall) (record : Nat → HostInfoSingle) (gHostInfoArray : Nat)
    (t : Tables) : HeapProg ((Status × Tables) × Nat) := do
  let out ← scriptGetOutputHeap c
  if out = 0 then
    return ((.failure, t), gHostInfoArray)
  else
    let counted ← tokenizeAndStoreHeap out none c.text NEWLINE numberToken t
    let elements := counted.2.gHostInfoElements.toNat
    if elements = 0 then
      let _ ← call (.free out)
      return ((.success, counted.2), gHostInfoArray)
    else
      freeIfAny gHostInfoArray
      let hosts ← call (.malloc .hostTable)
      if hosts = 0 then
        let _ ← call (.free out)
        return ((.failure, { counted.2 with gHostInfoArray := none }), 0)
      else
        let ret ← updateHostLoopHeap out hosts elements 0 counted.1
          { counted.2 with gHostInfoArray := some { size := elements, record := record } }
        let _ ← call (.free out)
        return (ret, hosts)

/-- The tables, and the pointer in `g_host_info_array`. -/
structure HeapState where
  tables : Tables
  gHostInfoArray : Nat

/-- The pointer is null exactly if the tables have no host table. -/
def HeapState.Linked (s : HeapState) : Prop :=
  s.gHostInfoArray = 0 ↔ s.tables.gHostInfoArray = none

/-- The records that the allocator gives for a host table: none if it refuses. -/
def GivesBlock (kernel : Kernel (HeapCall Site) Nat) (record : Nat → HostInfoSingle)
    (hostBlock : Option (Nat → HostInfoSingle)) : Prop :=
  hostBlock = some record ∨ hostBlock = none ∧ Refuses kernel .hostTable

/-- The `stores` array of a page with one fixed structure. -/
def fixedStores : Page → List (TokenStore Tables)
  | .basicInfo => basicInfoMembers.map (.at gBasicInfo)
  | .ports => portInfoMembers.map (.at gPortInfo)
  | .wan => wanInfoMembers.map (.at gWanInfo)
  | .wifi => wifiInfoMembers.map (.at gWifiInfo)
  | .hosts => []

/-- `update_page_info`. -/
def updatePageInfoHeap (page : Page) (c : ScriptCall) (record : Nat → HostInfoSingle)
    (s : HeapState) : HeapProg (Status × HeapState) := do
  if page = .hosts then
    let ret ← updateHostInfoHeap c record s.gHostInfoArray s.tables
    return (ret.1.1, ⟨ret.1.2, ret.2⟩)
  else
    let ret ← updateStorageFromScriptHeap c (fixedStores page) s.tables
    return (ret.1, ⟨ret.2, s.gHostInfoArray⟩)

/-! ## `frame.c` and `requests.c` -/

/-- `frame_send`, of data in a block. -/
def frameSendHeap (data : Nat) : HeapProg Unit := do
  let buf ← call (.malloc .frame)
  if buf = 0 then
    return ()
  else
    let _ ← call (.touch buf)
    let _ ← call (.touch data)
    -- `serial_write`
    let _ ← call (.touch buf)
    let _ ← call (.free buf)
    return ()

/-- `request_send_raw`. -/
def requestSendRawHeap : HeapProg Unit := do
  let cmdbuf ← call (.malloc .command)
  let _ ← call (.touch cmdbuf)
  frameSendHeap cmdbuf
  let _ ← call (.free cmdbuf)
  return ()

/-- The copy loop of `request_update_hosts_paged`, from the block at `hosts`. -/
def copyHostsHeap (hosts : Nat) (len start : Int) : HeapProg Unit := do
  if 0 < copylen len start then
    -- `hosts[start + i]`
    let _ ← call (.touch hosts)
    return ()
  else return ()

/-- `request_update_hosts_paged`.  The page that it fills is on the stack. -/
def requestUpdateHostsPagedHeap (hosts : Nat) (len start : Int) : HeapProg Unit := do
  copyHostsHeap hosts len start
  requestSendRawHeap

/-! ## What each part leaves -/

theorem unchecked_scriptOutput : Site.Unchecked .scriptOutput := trivial

theorem unchecked_token : Site.Unchecked .token := trivial

theorem unchecked_command : Site.Unchecked .command := trivial

/-- A store frees its token. -/
def TokenStore.frees {σ : Type} : TokenStore σ → Bool
  | .stringNew _ => false
  | _ => true

theorem frees_fixedStores (page : Page) : (fixedStores page).all TokenStore.frees = true := by
  cases page <;> rfl

theorem frees_hostInfoTokens (i : Nat) : (hostInfoTokens i).all TokenStore.frees = true := rfl

/-- The stores that the loop leaves are the last ones. -/
theorem tokenizeLoop_suffix {σ : Type} (delim : UInt8) (stores : List (TokenStore σ))
    (lastStart : List UInt8) (s : σ) : (tokenizeLoop delim stores lastStart s).2.1 <:+ stores := by
  induction stores generalizing lastStart s with
  | nil => exact List.suffix_rfl
  | cons store stores ih =>
    rw [tokenizeLoop]
    cases strchr lastStart delim with
    | none => exact List.suffix_rfl
    | some nextToken => exact (ih _ _).trans (List.suffix_cons store stores)

/-- The count line leaves the pointer to the host table alone. -/
theorem gHostInfoArray_numberToken (text : List UInt8) (t : Tables) :
    (tokenizeAndStore text NEWLINE numberToken t).2.gHostInfoArray = t.gHostInfoArray := by
  rw [tokenizeAndStore_eq, storeTokens_numberToken]

/-- `update_page_info` makes such an update where the scripts and the heap give it. -/
theorem update_eq_updatePageInfo (page : Page) (run : ScriptRun)
    (hostBlock : Option (Nat → HostInfoSingle)) (t : Tables) :
    PageRun.update ⟨page, run, hostBlock⟩ t = updatePageInfo ⟨fun _ => run, hostBlock⟩ page t := by
  cases page <;> rfl

/-- The loop leaves it null or not. -/
theorem gHostInfoArray_updateHostLoop (rounds i : Nat) (currPos : List UInt8) (t : Tables) :
    (updateHostLoop rounds i currPos t).2.gHostInfoArray = none ↔ t.gHostInfoArray = none := by
  rw [updateHostLoop_eq]
  exact Option.map_eq_none_iff

/-- A script with a string. -/
theorem exists_printed {c : ScriptCall} (h : c.run.output ≠ none) :
    ∃ out overlay, c = .printed out overlay := by
  cases c with
  | notOpened => exact absurd rfl h
  | silent => exact absurd rfl h
  | printed out overlay => exact ⟨out, overlay, rfl⟩

/-- A store into a global points into no block. -/
theorem no_target {owned : Multiset Nat} : ∀ q, (none : Option Nat) = some q → q ∈ owned := by
  intro q hq
  cases hq

theorem hold_comm (p q : Nat) (owned : Multiset Nat) :
    hold p (hold q owned) = hold q (hold p owned) := by
  unfold hold
  split
  · rfl
  · split
    · rfl
    · exact Multiset.cons_swap p q owned

section

variable {kernel : Kernel (HeapCall Site) Nat} {owned : Multiset Nat} {nulls late : Nat} {σ : Type}

theorem triple_touchTarget {target : Option Nat} (htarget : ∀ q, target = some q → q ∈ owned) :
    Triple kernel Blocks.see .initial (Holds owned nulls late) (touchTarget target)
      fun _ => Holds owned nulls late := by
  cases target with
  | none => exact Triple.pure fun _ h => h
  | some q => exact (triple_touch (htarget q rfl)).bind fun _ => Triple.pure fun _ h => h

theorem triple_tokenStoreHeap {target : Option Nat} (htarget : ∀ q, target = some q → q ∈ owned)
    {store : TokenStore σ} (hstore : store.frees = true) (p : Nat) (token : List UInt8) (s : σ) :
    Triple kernel Blocks.see .initial (Holds (p ::ₘ owned) nulls late)
      (tokenStoreHeap target store p token s)
      fun r b => r = tokenStore store token s ∧ Holds owned nulls late b := by
  have hcons : ∀ q, target = some q → q ∈ p ::ₘ owned :=
    fun q hq => Multiset.mem_cons_of_mem (htarget q hq)
  have hfreed : Triple kernel Blocks.see .initial (Holds (p ::ₘ owned) nulls late)
      (do
        let _ ← call (.touch p)
        touchTarget target
        let _ ← call (.free p)
        return tokenStore store token s)
      fun r b => r = tokenStore store token s ∧ Holds owned nulls late b := by
    refine (triple_touch (Multiset.mem_cons_self p owned)).bind fun _ => ?_
    refine (triple_touchTarget hcons).bind fun _ => ?_
    exact triple_free.bind fun _ => Triple.pure fun _ h => ⟨rfl, h⟩
  cases store with
  | stringNew put => cases hstore
  | stringOverwrite storageLen modify => exact hfreed
  | uint put => exact hfreed
  | byte put => exact hfreed

theorem triple_freeIfAny (p : Nat) :
    Triple kernel Blocks.see .initial (Holds (hold p owned) nulls late) (freeIfAny p)
      fun _ => Holds owned nulls late := by
  refine Triple.ite ?_ ?_
  · intro hp
    rw [hold_of_ne hp]
    exact triple_free.bind fun _ => Triple.pure fun _ h => h
  · intro hp
    rw [not_not.mp hp, hold_zero]
    exact Triple.pure fun _ h => h

variable (hfresh : Fresh kernel) (hgrants : Grants kernel Site.Unchecked)

include hfresh hgrants

/-- The tokens that the loop allocates are gone behind it. -/
theorem triple_tokenizeLoopHeap {str : Nat} (hstr : str ∈ owned) {target : Option Nat}
    (htarget : ∀ q, target = some q → q ∈ owned) (delim : UInt8) {stores : List (TokenStore σ)}
    (hstores : stores.all TokenStore.frees = true) (lastStart : List UInt8) (s : σ) :
    Triple kernel Blocks.see .initial (Holds owned nulls late)
      (tokenizeLoopHeap str target delim stores lastStart s)
      fun r b => r = tokenizeLoop delim stores lastStart s ∧ Holds owned nulls late b := by
  induction stores generalizing lastStart s with
  | nil => exact Triple.pure fun _ h => ⟨rfl, h⟩
  | cons store stores ih =>
    rw [List.all_cons, Bool.and_eq_true] at hstores
    rw [tokenizeLoopHeap, tokenizeLoop]
    refine (triple_touch hstr).bind fun _ => ?_
    cases strchr lastStart delim with
    | none => exact Triple.pure fun _ h => ⟨rfl, h⟩
    | some nextToken =>
      refine (triple_malloc_granted hfresh hgrants unchecked_token).bind fun currToken => ?_
      refine Triple.of_fact fun _ => ?_
      refine (triple_tokenStoreHeap htarget hstores.1 currToken _ s).bind fun s' => ?_
      refine Triple.of_fact fun hs' => ?_
      subst hs'
      exact ih hstores.2 _ _

/-- So are all tokens. -/
theorem triple_tokenizeAndStoreHeap {str : Nat} (hstr : str ∈ owned) {target : Option Nat}
    (htarget : ∀ q, target = some q → q ∈ owned) (text : List UInt8) (delim : UInt8)
    {stores : List (TokenStore σ)} (hstores : stores.all TokenStore.frees = true) (s : σ) :
    Triple kernel Blocks.see .initial (Holds owned nulls late)
      (tokenizeAndStoreHeap str target text delim stores s)
      fun r b => r = tokenizeAndStore text delim stores s ∧ Holds owned nulls late b := by
  have hrest : ∀ lastStart store rest s', tokenizeLoop delim stores text s =
      (lastStart, store :: rest, s') → store.frees = true := by
    intro lastStart store rest s' hloop
    have hsuffix := tokenizeLoop_suffix delim stores text s
    rw [hloop] at hsuffix
    exact List.all_eq_true.mp hstores store (hsuffix.subset List.mem_cons_self)
  rw [tokenizeAndStore]
  refine (triple_tokenizeLoopHeap hfresh hgrants hstr htarget delim hstores text s).bind
    fun looped => ?_
  refine Triple.of_fact fun hlooped => ?_
  rw [← hlooped] at hrest ⊢
  obtain ⟨lastStart, _ | ⟨store, rest⟩, s'⟩ := looped
  · exact Triple.pure fun _ h => ⟨rfl, h⟩
  · have hstore := hrest lastStart store rest s' rfl
    refine (triple_touch hstr).bind fun _ => ?_
    dsimp only
    by_cases hlast : lastStart ≠ []
    · rw [if_pos hlast, if_pos hlast]
      refine (triple_malloc_granted hfresh hgrants unchecked_token).bind fun currToken => ?_
      refine Triple.of_fact fun _ => ?_
      refine (triple_touch (Multiset.mem_cons_self currToken owned)).bind fun _ => ?_
      refine (triple_tokenStoreHeap htarget hstore currToken lastStart s').bind fun s'' => ?_
      refine Triple.of_fact fun hs'' => ?_
      subst hs''
      exact Triple.pure fun _ h => ⟨rfl, h⟩
    · rw [if_neg hlast, if_neg hlast]
      exact Triple.pure fun _ h => ⟨rfl, h⟩

/-- The block of a script is live behind `script_get_output` exactly if there is
a string in it. -/
theorem triple_scriptGetOutputHeap (c : ScriptCall) :
    Triple kernel Blocks.see .initial (Holds owned nulls late) (scriptGetOutputHeap c)
      fun p b => (p = 0 ↔ c.run.output = none) ∧ Holds (hold p owned) nulls late b := by
  have hgranted := @triple_malloc_granted _ kernel owned nulls late _ hfresh hgrants _
    unchecked_scriptOutput
  cases c with
  | notOpened => exact Triple.pure fun _ h => ⟨⟨fun _ => rfl, fun _ => rfl⟩, h⟩
  | silent =>
    refine hgranted.bind fun ret => Triple.of_fact fun _ => ?_
    exact triple_free.bind fun _ => Triple.pure fun _ h => ⟨⟨fun _ => rfl, fun _ => rfl⟩, h⟩
  | printed out overlay =>
    refine hgranted.bind fun ret => Triple.of_fact fun hret => ?_
    refine (triple_touch (Multiset.mem_cons_self ret owned)).bind fun _ => ?_
    refine Triple.pure fun _ h => ⟨⟨fun hzero => absurd hzero hret, fun hnone => ?_⟩, ?_⟩
    · cases hnone
    · rw [hold_of_ne hret]
      exact h

/-- The update of a fixed table leaves nothing, and looks at the freed output once
if there is one. -/
theorem triple_updateStorageFromScriptHeap (c : ScriptCall) {stores : List (TokenStore Tables)}
    (hstores : stores.all TokenStore.frees = true) (t : Tables) :
    Triple kernel Blocks.see .initial (Holds owned nulls late)
      (updateStorageFromScriptHeap c stores t)
      fun r b => r = updateStorageFromScript c.run stores t ∧
        Holds owned nulls (late + if c.run.output.isSome then 1 else 0) b := by
  refine (triple_scriptGetOutputHeap hfresh hgrants c).bind fun out => ?_
  refine Triple.of_fact fun hout => ?_
  refine Triple.ite ?_ ?_
  · intro hzero
    have hnone := hout.mp hzero
    rw [hzero, hold_zero, updateStorageFromScript, hnone]
    exact Triple.pure fun _ h => ⟨rfl, h⟩
  · intro hne
    obtain ⟨text, overlay, rfl⟩ := exists_printed (mt hout.mpr hne)
    rw [hold_of_ne hne]
    refine (triple_tokenizeAndStoreHeap hfresh hgrants (Multiset.mem_cons_self out owned)
      no_target _ NEWLINE hstores t).bind fun stopped => ?_
    refine Triple.of_fact fun hstopped => ?_
    subst hstopped
    refine triple_free_gone.bind fun _ => triple_touch_gone.bind fun _ => ?_
    exact Triple.pure fun _ h => ⟨rfl, h⟩

/-- The loop over the host table leaves nothing. -/
theorem triple_updateHostLoopHeap {out hosts : Nat} (hout : out ∈ owned) (hhosts : hosts ∈ owned)
    (rounds i : Nat) (currPos : List UInt8) (t : Tables) :
    Triple kernel Blocks.see .initial (Holds owned nulls late)
      (updateHostLoopHeap out hosts rounds i currPos t)
      fun r b => r = updateHostLoop rounds i currPos t ∧ Holds owned nulls late b := by
  induction rounds generalizing i currPos t with
  | zero => exact Triple.pure fun _ h => ⟨rfl, h⟩
  | succ rounds ih =>
    rw [updateHostLoopHeap, updateHostLoop]
    have htarget : ∀ q, some hosts = some q → q ∈ owned :=
      fun q hq => Option.some_inj.mp hq ▸ hhosts
    refine (triple_tokenizeAndStoreHeap hfresh hgrants hout htarget currPos NEWLINE
      (frees_hostInfoTokens i) t).bind fun stopped => ?_
    refine Triple.of_fact fun hstopped => ?_
    subst hstopped
    refine (triple_touch hout).bind fun _ => ?_
    dsimp only
    refine Triple.ite ?_ ?_
    · intro hend
      rw [if_pos hend]
      exact Triple.pure fun _ h => ⟨rfl, h⟩
    · intro hmore
      rw [if_neg hmore]
      exact ih (i + 1) _ _

/-- The update of the host table leaves the block that it answers.  The pointer to
it is null exactly if the model has no table. -/
theorem triple_updateHostInfoHeap (c : ScriptCall) (record : Nat → HostInfoSingle)
    {gHostInfoArray : Nat} {t : Tables} (hlink : gHostInfoArray = 0 ↔ t.gHostInfoArray = none) :
    Triple kernel Blocks.see .initial (Holds (hold gHostInfoArray owned) nulls late)
      (updateHostInfoHeap c record gHostInfoArray t)
      fun r b => (∃ hostBlock, GivesBlock kernel record hostBlock ∧
          r.1 = updateHostInfo c.run hostBlock t) ∧
        (r.2 = 0 ↔ r.1.2.gHostInfoArray = none) ∧
        Holds (hold r.2 owned) nulls late b := by
  refine (triple_scriptGetOutputHeap hfresh hgrants c).bind fun out => ?_
  refine Triple.of_fact fun hout => ?_
  refine Triple.ite ?_ ?_
  · intro hzero
    have hnone := hout.mp hzero
    rw [hzero, hold_zero]
    refine Triple.pure fun _ h => ⟨⟨some record, Or.inl rfl, ?_⟩, hlink, h⟩
    rw [updateHostInfo, hnone]
  · intro hne
    obtain ⟨text, overlay, rfl⟩ := exists_printed (mt hout.mpr hne)
    rw [hold_of_ne hne]
    refine (triple_tokenizeAndStoreHeap hfresh hgrants (Multiset.mem_cons_self out _)
      no_target _ NEWLINE (by rfl) t).bind fun counted => ?_
    refine Triple.of_fact fun hcounted => ?_
    subst hcounted
    dsimp only
    refine Triple.ite ?_ ?_
    · intro helements
      refine triple_free.bind fun _ =>
        Triple.pure fun _ h => ⟨⟨some record, Or.inl rfl, ?_⟩, ?_, h⟩
      · exact (if_pos helements).symm
      · show _ ↔ (tokenizeAndStore _ _ _ t).2.gHostInfoArray = none
        rw [gHostInfoArray_numberToken]
        exact hlink
    · intro helements
      rw [← hold_of_ne hne, hold_comm]
      refine (triple_freeIfAny gHostInfoArray).bind fun _ => ?_
      refine (triple_malloc hfresh .hostTable).bind fun hosts => ?_
      refine Triple.of_fact fun hrefuses => ?_
      refine Triple.ite ?_ ?_
      · intro hrefused
        have hblock : GivesBlock kernel record none := Or.inr ⟨rfl, hrefuses hrefused⟩
        rw [hrefused, hold_zero, hold_of_ne hne]
        refine triple_free.bind fun _ =>
          Triple.pure fun _ h => ⟨⟨none, hblock, ?_⟩, ⟨fun _ => rfl, fun _ => rfl⟩, h⟩
        exact (if_neg helements).symm
      · intro hgranted
        rw [hold_comm, hold_of_ne hne, hold_of_ne hgranted]
        refine (triple_updateHostLoopHeap hfresh hgrants (Multiset.mem_cons_self out _)
          (Multiset.mem_cons_of_mem (Multiset.mem_cons_self hosts owned)) _ 0 _ _).bind
          fun ret => ?_
        refine Triple.of_fact fun hret => ?_
        subst hret
        refine triple_free.bind fun _ =>
          Triple.pure fun _ h => ⟨⟨some record, Or.inl rfl, ?_⟩, ?_, ?_⟩
        · exact (if_neg helements).symm
        · rw [gHostInfoArray_updateHostLoop]
          exact iff_of_false hgranted (Option.some_ne_none _)
        · rw [hold_of_ne hgranted]
          exact h

/-- So does the update of any page. -/
theorem triple_updatePageInfoHeap (page : Page) (c : ScriptCall) (record : Nat → HostInfoSingle)
    {s : HeapState} (hlink : s.Linked) :
    Triple kernel Blocks.see .initial (Holds (hold s.gHostInfoArray owned) nulls late)
      (updatePageInfoHeap page c record s)
      fun r b => (∃ hostBlock, GivesBlock kernel record hostBlock ∧
          r.2.tables = (PageRun.update ⟨page, c.run, hostBlock⟩ s.tables).2) ∧
        r.2.Linked ∧
        Holds (hold r.2.gHostInfoArray owned) nulls
          (late + if page ≠ .hosts ∧ c.run.output.isSome then 1 else 0) b := by
  refine Triple.ite ?_ ?_
  · intro hpage
    subst hpage
    rw [if_neg fun h => h.1 rfl]
    refine (triple_updateHostInfoHeap hfresh hgrants c record hlink).bind fun ret => ?_
    refine Triple.of_fact fun ⟨hostBlock, hblock, hret⟩ => ?_
    refine Triple.of_fact fun hlink' => ?_
    exact Triple.pure fun _ h => ⟨⟨hostBlock, hblock, congrArg Prod.snd hret⟩, hlink', h⟩
  · intro hpage
    have hfixed : updateStorageFromScript c.run (fixedStores page) s.tables =
        PageRun.update ⟨page, c.run, some record⟩ s.tables := by
      cases page <;> first | rfl | exact absurd rfl hpage
    refine (triple_updateStorageFromScriptHeap hfresh hgrants c (frees_fixedStores page)
      s.tables).bind fun ret => ?_
    refine Triple.of_fact fun hret => ?_
    rw [hfixed] at hret
    refine Triple.pure fun _ h => ⟨⟨some record, Or.inl rfl, congrArg Prod.snd hret⟩, ?_, ?_⟩
    · show _ ↔ ret.2.gHostInfoArray = none
      rw [hret, update_eq_updatePageInfo, (hosts_updatePageInfo hpage _ _).1]
      exact hlink
    · simpa only [hpage, ne_eq, not_false_eq_true, true_and] using h

omit hgrants in
/-- A frame leaves nothing, whether its block is granted or not. -/
theorem triple_frameSendHeap {data : Nat} (hdata : data ∈ owned) :
    Triple kernel Blocks.see .initial (Holds owned nulls late) (frameSendHeap data)
      fun _ => Holds owned nulls late := by
  refine (triple_malloc hfresh .frame).bind fun buf => ?_
  refine Triple.of_fact fun _ => ?_
  refine Triple.ite ?_ ?_
  · intro hrefused
    rw [hrefused, hold_zero]
    exact Triple.pure fun _ h => h
  · intro hgranted
    rw [hold_of_ne hgranted]
    have hbuf := Multiset.mem_cons_self buf owned
    refine (triple_touch hbuf).bind fun _ => ?_
    refine (triple_touch (Multiset.mem_cons_of_mem hdata)).bind fun _ => ?_
    refine (triple_touch hbuf).bind fun _ => ?_
    exact triple_free.bind fun _ => Triple.pure fun _ h => h

/-- A request leaves nothing. -/
theorem triple_requestSendRawHeap :
    Triple kernel Blocks.see .initial (Holds owned nulls late) requestSendRawHeap
      fun _ => Holds owned nulls late := by
  refine (triple_malloc_granted hfresh hgrants unchecked_command).bind fun cmdbuf => ?_
  refine Triple.of_fact fun _ => ?_
  have hcmdbuf := Multiset.mem_cons_self cmdbuf owned
  refine (triple_touch hcmdbuf).bind fun _ => ?_
  refine (triple_frameSendHeap hfresh hcmdbuf).bind fun _ => ?_
  exact triple_free.bind fun _ => Triple.pure fun _ h => h

omit hfresh hgrants in
/-- The copy loop follows the pointer as it is. -/
theorem triple_copyHostsHeap (hosts : Nat) (len start : Int) :
    Triple kernel Blocks.see .initial (Holds (hold hosts owned) nulls late)
      (copyHostsHeap hosts len start)
      fun _ => Holds (hold hosts owned)
        (nulls + if hosts = 0 ∧ 0 < copylen len start then 1 else 0) late := by
  refine Triple.ite ?_ ?_
  · intro hcopies
    refine triple_touch_held.bind fun _ => Triple.pure fun _ h => ?_
    simpa only [hcopies, and_true] using h
  · intro hnone
    refine Triple.pure fun _ h => ?_
    rw [if_neg fun hmissing => hnone hmissing.2]
    exact h

end

/-! ## Any sequence -/

/-- What the daemon does with the heap: the update of a page, the request that
carries a host page, and any other request. -/
inductive HeapOp where
  | update (page : Page) (script : ScriptCall) (record : Nat → HostInfoSingle)
  | sendHosts (gHostPage : Int)
  | request

def HeapOp.exec : HeapOp → HeapState → HeapProg HeapState
  | .update page script record, s => do
    let ret ← updatePageInfoHeap page script record s
    return ret.2
  | .sendHosts gHostPage, s => do
    requestUpdateHostsPagedHeap s.gHostInfoArray s.tables.gHostInfoElements.toInt32.toInt
      (gHostPage * HOSTS_PER_PAGE)
    return s
  | .request, s => do
    requestSendRawHeap
    return s

def execOps : List HeapOp → HeapState → HeapProg HeapState
  | [], s => return s
  | op :: ops, s => do
    let s ← op.exec s
    execOps ops s

/-- The updates in an operation. -/
def HeapOp.Gives (kernel : Kernel (HeapCall Site) Nat) : HeapOp → List PageRun → Prop
  | .update page script record, updates => ∃ hostBlock, GivesBlock kernel record hostBlock ∧
    updates = [⟨page, script.run, hostBlock⟩]
  | _, updates => updates = []

/-- The tables behind some updates. -/
def Tables.afterUpdates (t : Tables) (updates : List PageRun) : Tables :=
  updates.foldl (fun t u => (u.update t).2) t

/-- A host page has records to copy, and there is no table to copy them from. -/
def Tables.hostsMissing (t : Tables) (gHostPage : Int) : Bool :=
  t.gHostInfoArray.isNone &&
    decide (0 < copylen t.gHostInfoElements.toInt32.toInt (gHostPage * HOSTS_PER_PAGE))

/-- The looks through a null pointer in an operation. -/
def HeapOp.nullLooks : HeapOp → Tables → Nat
  | .sendHosts gHostPage, t => if t.hostsMissing gHostPage then 1 else 0
  | _, _ => 0

/-- Those of a sequence that gives some updates. -/
def nullLooks : List HeapOp → List (List PageRun) → Tables → Nat
  | op :: ops, updates :: rest, t => op.nullLooks t + nullLooks ops rest (t.afterUpdates updates)
  | _, _, _ => 0

/-- The looks at a freed block in an operation. -/
def HeapOp.lateLooks : HeapOp → Nat
  | .update page script _ => if page ≠ .hosts ∧ script.run.output.isSome then 1 else 0
  | _ => 0

section

variable {kernel : Kernel (HeapCall Site) Nat} {nulls late : Nat}

theorem triple_exec (hfresh : Fresh kernel) (hgrants : Grants kernel Site.Unchecked) (op : HeapOp)
    {s : HeapState} (hlink : s.Linked) :
    Triple kernel Blocks.see .initial (Holds (hold s.gHostInfoArray 0) nulls late) (op.exec s)
      fun s' b => (∃ updates, op.Gives kernel updates ∧ s'.tables = s.tables.afterUpdates updates) ∧
        s'.Linked ∧
        Holds (hold s'.gHostInfoArray 0) (nulls + op.nullLooks s.tables) (late + op.lateLooks)
          b := by
  cases op with
  | update page script record =>
    refine (triple_updatePageInfoHeap hfresh hgrants page script record hlink).bind fun ret => ?_
    refine Triple.of_fact fun ⟨hostBlock, hblock, hret⟩ => ?_
    refine Triple.of_fact fun hlink' => ?_
    exact Triple.pure fun _ h => ⟨⟨_, ⟨hostBlock, hblock, rfl⟩, hret⟩, hlink', h⟩
  | sendHosts gHostPage =>
    have hmissing : s.tables.hostsMissing gHostPage = true ↔ s.gHostInfoArray = 0 ∧
        0 < copylen s.tables.gHostInfoElements.toInt32.toInt (gHostPage * HOSTS_PER_PAGE) := by
      unfold Tables.hostsMissing HeapState.Linked at *
      rw [hlink, Bool.and_eq_true, decide_eq_true_eq, Option.isNone_iff_eq_none]
    refine Triple.bind ?_ fun _ => Triple.pure fun _ h => ⟨⟨[], rfl, rfl⟩, hlink, h⟩
    refine (triple_copyHostsHeap _ _ _).bind fun _ => ?_
    simp only [HeapOp.nullLooks, hmissing]
    exact triple_requestSendRawHeap hfresh hgrants
  | request =>
    refine (triple_requestSendRawHeap hfresh hgrants).bind fun _ => ?_
    exact Triple.pure fun _ h => ⟨⟨[], rfl, rfl⟩, hlink, h⟩

theorem triple_execOps (hfresh : Fresh kernel) (hgrants : Grants kernel Site.Unchecked)
    (ops : List HeapOp) {s : HeapState} (hlink : s.Linked) :
    Triple kernel Blocks.see .initial (Holds (hold s.gHostInfoArray 0) nulls late) (execOps ops s)
      fun s' b => ∃ updates, List.Forall₂ (HeapOp.Gives kernel) ops updates ∧
        s'.tables = s.tables.afterUpdates updates.flatten ∧
        Holds (hold s'.gHostInfoArray 0) (nulls + nullLooks ops updates s.tables)
          (late + (ops.map HeapOp.lateLooks).sum) b := by
  induction ops generalizing s nulls late with
  | nil => exact Triple.pure fun _ h => ⟨[], .nil, rfl, h⟩
  | cons op ops ih =>
    refine (triple_exec hfresh hgrants op hlink).bind fun m => ?_
    refine Triple.of_fact fun ⟨first, hfirst, hm⟩ => Triple.of_fact fun hlink' => ?_
    refine (ih hlink').post fun s' b ⟨rest, hrest, hs', h⟩ => ⟨first :: rest, ?_, ?_, ?_⟩
    · exact .cons hfirst hrest
    · rw [hs', hm, Tables.afterUpdates, Tables.afterUpdates, Tables.afterUpdates, List.flatten_cons,
        List.foldl_append]
    · rw [List.map_cons, List.sum_cons, ← Nat.add_assoc, nullLooks, ← Nat.add_assoc, ← hm]
      exact h

/-- Without a refusal, the updates keep room in the host table. -/
theorem hostsFit_afterUpdates (hrefuses : ¬ Refuses kernel .hostTable) {op : HeapOp}
    {updates : List PageRun} (hgives : op.Gives kernel updates) {t : Tables} (ht : t.HostsFit) :
    (t.afterUpdates updates).HostsFit := by
  cases op with
  | update page script record =>
    obtain ⟨hostBlock, hblock, rfl⟩ := hgives
    obtain rfl | ⟨_, hrefused⟩ := hblock
    · show (PageRun.update ⟨page, script.run, some record⟩ t).2.HostsFit
      rw [update_eq_updatePageInfo]
      exact ht.updatePageInfo rfl page
    · exact absurd hrefused hrefuses
  | sendHosts gHostPage =>
    cases hgives
    exact ht
  | request =>
    cases hgives
    exact ht

/-- Where there is room for the records that are counted, there is a table to copy
them from. -/
theorem hostsMissing_of_hostsFit {t : Tables} (ht : t.HostsFit) {gHostPage : Int}
    (hpage : 0 ≤ gHostPage) : t.hostsMissing gHostPage = false := by
  unfold Tables.hostsMissing
  unfold Tables.HostsFit Tables.hostCapacity at ht
  cases harray : t.gHostInfoArray with
  | some a => rfl
  | none =>
    rw [harray] at ht
    have hcount : t.gHostInfoElements = 0 := UInt32.toNat_inj.mp (Nat.le_zero.mp ht)
    rw [hcount, Bool.and_eq_false_iff, decide_eq_false_iff_not]
    refine Or.inr ?_
    show ¬ 0 < copylen 0 (gHostPage * HOSTS_PER_PAGE)
    unfold copylen HOSTS_PER_PAGE
    split <;> omega

/-- Where the table is missing, the model of the payloads has no host page. -/
theorem pagePayload_of_hostsMissing {t : Tables} {gHostPage : Int}
    (h : t.hostsMissing gHostPage = true) : pagePayload .hosts t gHostPage = none := by
  rw [Tables.hostsMissing, Bool.and_eq_true, decide_eq_true_eq, Option.isNone_iff_eq_none] at h
  obtain ⟨hnone, hcopies⟩ := h
  obtain ⟨n, hn⟩ : ∃ n, (copylen t.gHostInfoElements.toInt32.toInt
      (gHostPage * HOSTS_PER_PAGE)).toNat = n + 1 := ⟨_, (Nat.succ_pred (by omega)).symm⟩
  -- the first record that is copied cannot be read
  show requestUpdateHostsPaged _ _ _ = none
  rw [requestUpdateHostsPaged, hnone, hn, List.range_succ_eq_map, List.foldlM_cons]
  rfl

/-- Only the table of a refused request is missing. -/
theorem nullLooks_eq_zero (hrefuses : ¬ Refuses kernel .hostTable) {ops : List HeapOp}
    {updates : List (List PageRun)} (hgives : List.Forall₂ (HeapOp.Gives kernel) ops updates)
    (hpages : ∀ gHostPage, .sendHosts gHostPage ∈ ops → 0 ≤ gHostPage) {t : Tables}
    (ht : t.HostsFit) : nullLooks ops updates t = 0 := by
  induction hgives generalizing t with
  | nil => rfl
  | @cons op first ops rest hfirst _ ih =>
    have hop : op.nullLooks t = 0 := by
      cases op with
      | sendHosts gHostPage =>
        have hpage := hpages gHostPage List.mem_cons_self
        rw [HeapOp.nullLooks, hostsMissing_of_hostsFit ht hpage]
        rfl
      | _ => rfl
    rw [nullLooks, hop, Nat.zero_add]
    exact ih (fun p hp => hpages p (List.mem_cons_of_mem _ hp))
      (hostsFit_afterUpdates hrefuses hfirst ht)

end

/-- Over any sequence of updates and requests, as long as the requests for blocks
that the program does not check are granted: the tables are those of the updates,
the only live block behind it is the host table, nothing was freed that was not
live, and a freed block was looked at once for each script of a fixed table that
printed something.  A null pointer was followed once for each host page that was
sent with records to copy and no host table, which does not happen if no request
for a host table is refused. -/
theorem heap_balanced {kernel : Kernel (HeapCall Site) Nat} (hfresh : Fresh kernel)
    (hgrants : Grants kernel Site.Unchecked) (ops : List HeapOp) :
    ∃ (s : HeapState) (b : Blocks) (updates : List (List PageRun)),
      s = (execOps ops ⟨.init, 0⟩ kernel []).1 ∧
      b = (execOps ops ⟨.init, 0⟩ kernel []).2.foldl Blocks.see .initial ∧
      List.Forall₂ (HeapOp.Gives kernel) ops updates ∧
      s.tables = Tables.init.afterUpdates updates.flatten ∧
      b.live = hold s.gHostInfoArray 0 ∧ b.badFrees = 0 ∧
      b.lateTouches = (ops.map HeapOp.lateLooks).sum ∧
      b.nullTouches = nullLooks ops updates .init ∧
      (¬ Refuses kernel .hostTable → (∀ gHostPage, .sendHosts gHostPage ∈ ops → 0 ≤ gHostPage) →
        b.nullTouches = 0) := by
  have hlink : HeapState.Linked ⟨.init, 0⟩ := ⟨fun _ => rfl, fun _ => rfl⟩
  obtain ⟨updates, hgives, htables, h⟩ :=
    (triple_execOps hfresh hgrants ops hlink).run Holds.initial
  have hnulls := h.nullTouches_eq
  have hlate := h.lateTouches_eq
  rw [Nat.zero_add] at hnulls hlate
  refine ⟨_, _, updates, rfl, rfl, hgives, htables, h.live_eq, h.badFrees_eq, hlate, hnulls, ?_⟩
  intro hrefuses hpages
  rw [hnulls]
  exact nullLooks_eq_zero hrefuses hgives hpages (Nat.zero_le _)

/-- An allocator that refuses some kinds of requests. -/
def sparseKernel (refused : Site → Bool) : Kernel (HeapCall Site) Nat
  | trace, .malloc site => if refused site then 0 else 1 + (trace.map Prod.snd).sum
  | _, _ => 0

theorem fresh_sparseKernel (refused : Site → Bool) : Fresh (sparseKernel refused) := by
  have hsum : ∀ (trace : List (HeapCall Site × Nat)), ∀ e ∈ trace,
      e.2 < 1 + (trace.map Prod.snd).sum := by
    intro trace e he
    have := List.single_le_sum (fun _ _ => Nat.zero_le _) _ (List.mem_map_of_mem (f := Prod.snd) he)
    omega
  refine fresh_of_gt fun trace site => ?_
  rw [sparseKernel]
  split
  · exact Or.inl rfl
  · exact Or.inr (hsum trace)

theorem sparseKernel_ne_zero {refused : Site → Bool} {site : Site} (h : refused site = false)
    (trace : List (HeapCall Site × Nat)) : sparseKernel refused trace (.malloc site) ≠ 0 := by
  rw [sparseKernel, h, if_neg Bool.false_ne_true]
  omega

/-- A script that prints one line. -/
def oneLine : ScriptCall :=
  .printed (.ofText [0x31, NEWLINE] (by decide) (by decide)) fun _ => none

/-- The host table and its page, another request, and the WAN table. -/
def oneLineOps : List HeapOp :=
  [.update .hosts oneLine fun _ => .zero, .sendHosts 0, .request,
    .update .wan oneLine fun _ => .zero]

theorem heap_balanced_oneLine :
    ∃ (s : HeapState) (b : Blocks),
      s = (execOps oneLineOps ⟨.init, 0⟩ (sparseKernel (· = .frame)) []).1 ∧
      b = (execOps oneLineOps ⟨.init, 0⟩ (sparseKernel (· = .frame)) []).2.foldl Blocks.see
        .initial ∧
      b.live = hold s.gHostInfoArray 0 ∧ b.badFrees = 0 ∧ b.lateTouches = 1 ∧
      b.nullTouches = 0 := by
  have hgrants : Grants (sparseKernel (· = .frame)) Site.Unchecked := by
    intro trace site hsite
    refine sparseKernel_ne_zero ?_ trace
    cases site <;> first | rfl | exact hsite.elim
  have hrefuses : ¬ Refuses (sparseKernel (· = .frame)) .hostTable := by
    rintro ⟨trace, hzero⟩
    exact sparseKernel_ne_zero (by rfl) trace hzero
  have hpages : ∀ gHostPage, .sendHosts gHostPage ∈ oneLineOps → 0 ≤ gHostPage := by
    simp [oneLineOps]
  obtain ⟨s, b, _, hs, hb, _, _, hlive, hbad, hlate, _, hnull⟩ :=
    heap_balanced (fresh_sparseKernel _) hgrants oneLineOps
  exact ⟨s, b, hs, hb, hlive, hbad, hlate, hnull hrefuses hpages⟩

/-- With the host table refused as well, its page follows the null pointer. -/
example :
    ((execOps oneLineOps ⟨.init, 0⟩ (sparseKernel (· = .hostTable)) []).2.foldl Blocks.see
      .initial).nullTouches = 1 := by
  rfl

end K3ScreenCtrl
