import K3ScreenCtrl.InfoCenter
import K3ScreenCtrl.Lib.Cursor

/-!
# The host list

`update_host_info` reads a count line and then records of four lines.  It
decides that the output is incomplete when a record leaves nothing behind it,
so a record counts only if the output goes on after it.

* `updateHostLoop_eq` is the loop: with `k` such records it stops in round `k`
  and sets the count to `k`, or it runs out of rounds before.
* `updateHostInfo_eq` is the whole updater, on every output.
* `keepsRecords_iff` says when the count is the number of complete records of
  the output.
-/

namespace K3ScreenCtrl

open CString Pieces

/-! ## One record -/

/-- The record that a list of tokens makes of an old record. -/
def storeRecord (tokens : List (List UInt8)) (h : HostInfoSingle) : HostInfoSingle :=
  storeTokens hostInfoMembers tokens h

/-- Four tokens overwrite a record, the download speed before the upload
speed. -/
theorem storeRecord_cons (name download upload logo : List UInt8) (rest : List (List UInt8))
    (h : HostInfoSingle) :
    storeRecord (name :: download :: upload :: logo :: rest) h =
      { uploadBps := UInt32.ofInt (atoi upload)
        downloadBps := UInt32.ofInt (atoi download)
        hostname := storeString name h.hostname
        logo := UInt32.ofInt (atoi logo) } := rfl

/-- The stores of record `i` change that record and nothing else. -/
theorem storeTokens_hostInfoTokens (i : Nat) (tokens : List (List UInt8)) (t : Tables) :
    storeTokens (hostInfoTokens i) tokens t = t.modifyHost i (storeRecord tokens) :=
  storeTokens_at (gHostInfoRecord i) hostInfoMembers tokens t

/-! ## The loop -/

/-- The lines go to the records from `i` on, four to a record. -/
def fillHosts : Nat → Nat → List (List UInt8) → HostArray → HostArray
  | 0, _, _, a => a
  | rounds + 1, i, lines, a =>
    fillHosts rounds (i + 1) (lines.drop 4) (a.modify i (storeRecord lines))

theorem fillHosts_nil (rounds i : Nat) (a : HostArray) : fillHosts rounds i [] a = a := by
  induction rounds generalizing i with
  | zero => rfl
  | succ rounds ih =>
    have hid : a.modify i (storeRecord []) = a := by
      unfold HostArray.modify
      simp [storeRecord]
    rw [fillHosts, hid, List.drop_nil, ih]

@[simp] theorem size_fillHosts (rounds i : Nat) (lines : List (List UInt8)) (a : HostArray) :
    (fillHosts rounds i lines a).size = a.size := by
  induction rounds generalizing i lines a with
  | zero => rfl
  | succ rounds ih =>
    rw [fillHosts, ih]
    rfl

/-- What the filled records hold: record `j` is filled from line `4 * j` on. -/
theorem record_fillHosts (rounds i : Nat) (lines : List (List UInt8)) (a : HostArray) (j : Nat) :
    (fillHosts rounds i lines a).record j =
      if i ≤ j ∧ j < i + rounds then storeRecord (lines.drop (4 * (j - i))) (a.record j)
      else a.record j := by
  induction rounds generalizing i lines a with
  | zero =>
    have hno : ¬ (i ≤ j ∧ j < i + 0) := by omega
    rw [if_neg hno]
    rfl
  | succ rounds ih =>
    rw [fillHosts, ih, List.drop_drop]
    show (if _ then storeRecord _ (if j = i then _ else _) else if j = i then _ else _) = _
    rcases Nat.lt_trichotomy j i with hlt | rfl | hgt
    · rw [if_neg (by omega), if_neg (by omega), if_neg (by omega)]
    · rw [if_neg (by omega), if_pos rfl, if_pos (by omega), Nat.sub_self]
      rfl
    · have hoff : 4 + 4 * (j - (i + 1)) = 4 * (j - i) := by omega
      rw [if_neg (show ¬ j = i by omega), hoff]
      by_cases hin : j < i + (rounds + 1)
      · rw [if_pos (by omega), if_pos (by omega)]
      · rw [if_neg (by omega), if_neg (by omega)]

/-- The records with at least one line behind them. -/
def countedRecords (lines : List (List UInt8)) : Nat := (lines.length - 1) / 4

/-- The loop over the records, in terms of the lines that are left. -/
theorem updateHostLoop_eq (rounds i : Nat) (currPos : List UInt8) (t : Tables) :
    updateHostLoop rounds i currPos t =
      (if rounds ≤ countedRecords (pieces NEWLINE currPos) then .success else .failure,
        { t with
          gHostInfoArray :=
            t.gHostInfoArray.map (fillHosts rounds i (pieces NEWLINE currPos))
          gHostInfoElements :=
            if rounds ≤ countedRecords (pieces NEWLINE currPos) then t.gHostInfoElements
            else UInt32.ofNat (i + countedRecords (pieces NEWLINE currPos)) }) := by
  induction rounds generalizing i currPos t with
  | zero =>
    have hid : fillHosts 0 i (pieces NEWLINE currPos) = id := rfl
    simp [updateHostLoop, hid]
  | succ rounds ih =>
    rw [updateHostLoop, tokenizeAndStore_eq, storeTokens_hostInfoTokens]
    show (if afterPieces NEWLINE 4 currPos = [] then
        (Status.failure,
          { t.modifyHost i (storeRecord (pieces NEWLINE currPos)) with
            gHostInfoElements := UInt32.ofNat i })
      else updateHostLoop rounds (i + 1) (afterPieces NEWLINE 4 currPos)
        (t.modifyHost i (storeRecord (pieces NEWLINE currPos)))) = _
    have hrest := pieces_afterPieces (d := NEWLINE) 4 currPos
    have hstop : afterPieces NEWLINE 4 currPos = [] ↔ (pieces NEWLINE currPos).length ≤ 4 :=
      afterPieces_eq_nil_iff
    generalize pieces NEWLINE currPos = lines at hrest hstop ⊢
    by_cases hlast : lines.length ≤ 4
    · -- the record leaves nothing behind it: it is stored but not counted
      have hcount : countedRecords lines = 0 := by
        unfold countedRecords
        omega
      have hdrop : lines.drop 4 = [] := List.drop_eq_nil_iff.mpr hlast
      have hfill : fillHosts (rounds + 1) i lines = fun a => a.modify i (storeRecord lines) := by
        funext a
        rw [fillHosts, hdrop, fillHosts_nil]
      rw [if_pos (hstop.mpr hlast), hcount, hfill]
      rfl
    · have hcount : countedRecords lines = countedRecords (lines.drop 4) + 1 := by
        unfold countedRecords
        rw [List.length_drop]
        omega
      rw [if_neg (fun h => hlast (hstop.mp h)), ih, hrest, hcount]
      have hidx : i + (countedRecords (lines.drop 4) + 1) =
          i + 1 + countedRecords (lines.drop 4) := by omega
      simp only [Nat.add_le_add_iff_right, hidx]
      congr 2
      unfold Tables.modifyHost
      rw [Option.map_map]
      rfl

/-! ## The updater -/

/-- The count after the count line was stored: the old count if the output has
no line. -/
def announcedHosts (old : UInt32) (lines : List (List UInt8)) : UInt32 :=
  match lines with
  | [] => old
  | line :: _ => UInt32.ofInt (atoi line)

theorem storeTokens_numberToken (lines : List (List UInt8)) (t : Tables) :
    storeTokens numberToken lines t =
      { t with gHostInfoElements := announcedHosts t.gHostInfoElements lines } := by
  cases lines <;> rfl

/-- `update_host_info` on an output, in terms of its lines. -/
theorem updateHostInfo_eq {run : ScriptRun} {out : ScriptOutput} (h : run.output = some out)
    (hostBlock : Option (Nat → HostInfoSingle)) (t : Tables) :
    updateHostInfo run hostBlock t =
      let lines := pieces NEWLINE out.str
      let n := announcedHosts t.gHostInfoElements lines
      let k := countedRecords lines.tail
      if n.toNat = 0 then (.success, { t with gHostInfoElements := n })
      else
        match hostBlock with
        | none => (.failure, { t with gHostInfoArray := none, gHostInfoElements := n })
        | some record =>
          (if n.toNat ≤ k then .success else .failure,
            { t with
              gHostInfoArray :=
                some (fillHosts n.toNat 0 lines.tail { size := n.toNat, record := record })
              gHostInfoElements := if n.toNat ≤ k then n else UInt32.ofNat k }) := by
  have hrest : pieces NEWLINE (afterPieces NEWLINE 1 out.str) = (pieces NEWLINE out.str).tail := by
    rw [pieces_afterPieces, List.drop_one]
  rw [updateHostInfo, h]
  simp only [tokenizeAndStore_eq, storeTokens_numberToken]
  split
  · rfl
  · cases hostBlock with
    | none => rfl
    | some record =>
      show updateHostLoop _ 0 (afterPieces NEWLINE 1 out.str) _ = _
      simp only [updateHostLoop_eq, hrest, Option.map_some, Nat.zero_add]

/-- The number of hosts after an update: the announced number, or the number of
records with something behind them if that is smaller.  `granted` says whether
`malloc` returned a block. -/
def hostCountAfter (old : UInt32) (output : Option ScriptOutput) (granted : Bool) : UInt32 :=
  match output with
  | none => old
  | some out =>
    let lines := pieces NEWLINE out.str
    let n := announcedHosts old lines
    if granted then UInt32.ofNat (min n.toNat (countedRecords lines.tail)) else n

theorem gHostInfoElements_updateHostInfo (run : ScriptRun)
    (hostBlock : Option (Nat → HostInfoSingle)) (t : Tables) :
    (updateHostInfo run hostBlock t).2.gHostInfoElements =
      hostCountAfter t.gHostInfoElements run.output hostBlock.isSome := by
  cases hout : run.output with
  | none =>
    rw [updateHostInfo, hout]
    rfl
  | some out =>
    rw [updateHostInfo_eq hout, hostCountAfter]
    dsimp only
    generalize announcedHosts t.gHostInfoElements (pieces NEWLINE out.str) = n
    generalize countedRecords (pieces NEWLINE out.str).tail = k
    split
    · next hzero =>
      have hn : n = 0 := UInt32.toNat_inj.mp hzero
      rw [hn]
      simp
    · cases hostBlock with
      | none => rfl
      | some record =>
        show (if n.toNat ≤ k then n else UInt32.ofNat k) = UInt32.ofNat (min n.toNat k)
        split
        · next hle => rw [Nat.min_eq_left hle, UInt32.ofNat_toNat]
        · next hlt => rw [Nat.min_eq_right (by omega)]

/-! ## Listings -/

/-- The four lines that the script prints for one host. -/
structure HostLines where
  name : List UInt8
  upload : List UInt8
  download : List UInt8
  brand : List UInt8

def HostLines.lines (h : HostLines) : List (List UInt8) := [h.name, h.upload, h.download, h.brand]

/-- An output that announces `n` hosts, goes on with complete records, and may
break off inside the next one. -/
structure HostListing where
  countLine : List UInt8
  n : Nat
  records : List HostLines
  rest : List (List UInt8)
  atoi_countLine : atoi countLine = n
  one_le : 1 ≤ n
  length_records_le : records.length ≤ n
  length_rest_lt : rest.length < 4
  rest_eq_nil : records.length = n → rest = []
  newline_not_mem : ∀ line ∈ countLine :: (records.flatMap HostLines.lines ++ rest), NEWLINE ∉ line

namespace HostListing

/-- The lines behind the count line. -/
def body (doc : HostListing) : List (List UInt8) := doc.records.flatMap HostLines.lines ++ doc.rest

def text (doc : HostListing) : List UInt8 := render NEWLINE (doc.countLine :: doc.body)

variable (doc : HostListing)

theorem pieces_text : pieces NEWLINE doc.text = doc.countLine :: doc.body :=
  pieces_render doc.newline_not_mem

theorem length_body : doc.body.length = 4 * doc.records.length + doc.rest.length := by
  have hlines (h : HostLines) : h.lines.length = 4 := rfl
  rw [body, List.length_append, Cursor.length_flatMap hlines]

/-- The last complete record counts only if something is behind it. -/
theorem countedRecords_body :
    countedRecords doc.body =
      if doc.rest = [] then doc.records.length - 1 else doc.records.length := by
  have hrest := doc.length_rest_lt
  unfold countedRecords
  rw [length_body]
  split
  · next hnil =>
    rw [hnil, List.length_nil]
    omega
  · next hne =>
    have hpos : 0 < doc.rest.length := List.length_pos_iff.mpr hne
    omega

theorem n_lt : doc.n < 2 ^ 31 := by
  have h := atoi_lt doc.countLine
  rw [doc.atoi_countLine] at h
  omega

theorem toNat_announcedHosts (old : UInt32) (lines : List (List UInt8)) :
    (announcedHosts old (doc.countLine :: lines)).toNat = doc.n := by
  have hn := doc.n_lt
  show (UInt32.ofInt (atoi doc.countLine)).toNat = doc.n
  rw [doc.atoi_countLine, UInt32.ofInt, UInt32.toNat_ofNat']
  omega

end HostListing

/-- The count is the number of complete records, and the status says whether
that is all of them. -/
def KeepsRecords (doc : HostListing) (result : Status × Tables) : Prop :=
  result.2.gHostInfoElements.toNat = doc.records.length ∧
    (result.1 = .success ↔ doc.records.length = doc.n)

/-- Every complete record is kept exactly when there is none, or when a part of
another record follows the last one. -/
theorem keepsRecords_iff (doc : HostListing) (run : ScriptRun) (out : ScriptOutput)
    (hrun : run.output = some out) (hout : out.str = doc.text) (record : Nat → HostInfoSingle)
    (t : Tables) :
    KeepsRecords doc (updateHostInfo run (some record) t) ↔ doc.records = [] ∨ doc.rest ≠ [] := by
  have hn := doc.toNat_announcedHosts t.gHostInfoElements doc.body
  have hone := doc.one_le
  have hle := doc.length_records_le
  have hlt := doc.n_lt
  have hfull := doc.rest_eq_nil
  have hempty : doc.records = [] ↔ doc.records.length = 0 := List.length_eq_zero_iff.symm
  have hpos : ¬ doc.n = 0 := by omega
  unfold KeepsRecords
  simp only [updateHostInfo_eq hrun, hout, doc.pieces_text, List.tail_cons,
    doc.countedRecords_body, hn, if_neg hpos, hempty]
  by_cases hrest : doc.rest = []
  · -- the loop stops in the round of the last record, whatever `n` is
    have hk : ¬ doc.n ≤ doc.records.length - 1 := by omega
    have hcount : (UInt32.ofNat (doc.records.length - 1)).toNat = doc.records.length - 1 := by
      rw [UInt32.toNat_ofNat']
      omega
    simp only [hrest, if_true, if_neg hk, hcount]
    constructor
    · intro h
      left
      omega
    · intro h
      rcases h with h | h
      · refine ⟨by omega, ?_⟩
        constructor
        · intro hs
          cases hs
        · intro hm
          omega
      · exact absurd rfl h
  · have hm : doc.records.length ≠ doc.n := fun h => hrest (hfull h)
    have hk : ¬ doc.n ≤ doc.records.length := by omega
    have hcount : (UInt32.ofNat doc.records.length).toNat = doc.records.length := by
      rw [UInt32.toNat_ofNat']
      omega
    simp only [if_neg hrest, if_neg hk, hcount]
    simp [hrest, hm]

/-- One host, printed in full: the count line is "1" and the record is "a",
"5", "7", "0". -/
def oneHostListing : HostListing where
  countLine := [0x31]
  n := 1
  records := [{ name := [0x61], upload := [0x35], download := [0x37], brand := [0x30] }]
  rest := []
  atoi_countLine := by decide
  one_le := by decide
  length_records_le := by decide
  length_rest_lt := by decide
  rest_eq_nil := by decide
  newline_not_mem := by decide

/-- Two hosts announced, and the second one breaks off after its name. -/
def brokenOffListing : HostListing where
  countLine := [0x32]
  n := 2
  records := oneHostListing.records
  rest := [[0x62]]
  atoi_countLine := by decide
  one_le := by decide
  length_records_le := by decide
  length_rest_lt := by decide
  rest_eq_nil := by decide
  newline_not_mem := by decide

theorem keepsRecords_iff_brokenOff :
    KeepsRecords brokenOffListing
        (updateHostInfo (.ofText brokenOffListing.text (by decide) (by decide))
          (some fun _ => .zero) .init) ↔
      brokenOffListing.records = [] ∨ brokenOffListing.rest ≠ [] :=
  keepsRecords_iff brokenOffListing _ _ rfl rfl _ _

/-- The only host of a complete output is dropped, and the status is failure. -/
theorem keepsRecords_counterexample :
    ¬ ∀ (doc : HostListing) (run : ScriptRun) (out : ScriptOutput), run.output = some out →
        out.str = doc.text → ∀ (record : Nat → HostInfoSingle) (t : Tables),
          KeepsRecords doc (updateHostInfo run (some record) t) := by
  intro hall
  have h := hall oneHostListing (.ofText oneHostListing.text (by decide) (by decide)) _ rfl rfl
    (fun _ => .zero) .init
  exact absurd h.1 (by decide)

end K3ScreenCtrl
