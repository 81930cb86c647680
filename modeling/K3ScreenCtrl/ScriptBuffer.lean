import K3ScreenCtrl.InfoCenter

/-!
# What is left in the script buffer

`script_get_output` reads the output into a block that `malloc` returns and does
not terminate it.  The string that the tokenizers find goes on with whatever the
block held behind the output, up to the first NUL (`str_freadBlock`).

* `readString_reused` is the case that occurs: a block that held a longer output
  gives the new output followed by the rest of the old one.
* `dependsOnOutputOnly_iff` says exactly when two runs with the same output and
  different blocks agree on the string, the status and the tables.
-/

namespace K3ScreenCtrl

open CString

/-! ## The string in the block -/

theorem bytes_freadBlock (prior : ScriptBlock) {stream : List UInt8}
    (h : stream.length < SCRIPT_OUTPUT_BUFFER_SIZE) :
    (freadBlock prior stream).bytes = stream ++ prior.bytes.drop stream.length := by
  show stream.take _ ++ _ = _
  rw [List.take_of_length_le (Nat.le_of_lt h)]

/-- The string in the block is the output and what the block held behind it. -/
theorem str_freadBlock (prior : ScriptBlock) (o : ScriptOutput) :
    (freadBlock prior o.str).str =
      o.str ++ (prior.bytes.drop o.str.length).takeWhile (· != 0) := by
  unfold CharArray.str
  rw [bytes_freadBlock prior o.length_lt, List.takeWhile_append_of_pos]
  intro b hb
  have hne : b ≠ 0 := fun h => o.nul_not_mem (h ▸ hb)
  simpa using hne

/-- The string that an updater finds, if the block holds one. -/
def readString (prior : ScriptBlock) (stream : List UInt8) : Option (List UInt8) :=
  (readScript prior (some stream) fun _ => none).bind fun run => run.output.map ScriptOutput.str

theorem readScript_eq (prior : ScriptBlock) {o : ScriptOutput} (ho : o.str ≠ [])
    (overlay : Nat → Option UInt8) :
    readScript prior (some o.str) overlay =
      (blockString (freadBlock prior o.str)).map fun out =>
        { output := some out, overlay := overlay } := by
  unfold readScript scriptGetOutput
  dsimp only
  rw [if_neg ho]

theorem readString_eq (prior : ScriptBlock) {o : ScriptOutput} (ho : o.str ≠ []) :
    readString prior o.str = (blockString (freadBlock prior o.str)).map ScriptOutput.str := by
  unfold readString
  rw [readScript_eq prior ho]
  cases blockString (freadBlock prior o.str) <;> rfl

/-- A block with a NUL in it gives the string in front of the first one. -/
theorem blockString_eq {block : ScriptBlock} (h : 0 ∈ block.bytes) :
    (blockString block).map ScriptOutput.str = some block.str := by
  unfold blockString
  rw [dif_pos h]
  rfl

/-- The string is the output exactly when the block held a NUL right behind
it. -/
theorem readString_eq_some_iff (prior : ScriptBlock) {o : ScriptOutput} (ho : o.str ≠ []) :
    readString prior o.str = some o.str ↔ prior.bytes[o.str.length]? = some 0 := by
  have hlt : o.str.length < prior.bytes.length := by
    rw [CharArray.length_bytes]
    exact o.length_lt
  have hdrop := List.drop_eq_getElem_cons hlt
  have hstr := str_freadBlock prior o
  rw [readString_eq prior ho, List.getElem?_eq_getElem hlt, Option.some.injEq]
  rw [hdrop] at hstr
  constructor
  · intro h
    -- the string of the block is the output, so nothing was taken from behind it
    by_cases hbyte : prior.bytes[o.str.length] = 0
    · exact hbyte
    · obtain ⟨out, hout, heq⟩ := Option.map_eq_some_iff.mp h
      have hblock : out.str = (freadBlock prior o.str).str := by
        unfold blockString at hout
        split at hout
        · cases hout
          rfl
        · cases hout
      rw [List.takeWhile_cons_of_pos (by simpa using hbyte), ← hblock, heq] at hstr
      have hlength := congrArg List.length hstr
      rw [List.length_append, List.length_cons] at hlength
      omega
  · intro hbyte
    have hmem : (0 : UInt8) ∈ (freadBlock prior o.str).bytes := by
      rw [bytes_freadBlock prior o.length_lt, hdrop, hbyte]
      simp
    rw [blockString_eq hmem, hstr, hbyte, List.takeWhile_cons_of_neg (by decide), List.append_nil]

/-- A block that held a longer output gives the new output and the rest of the
old one. -/
theorem readString_reused (earlier o : ScriptOutput) (ho : o.str ≠ [])
    (h : o.str.length ≤ earlier.str.length) :
    readString (freadBlock (CharArray.zero _) earlier.str) o.str =
      some (o.str ++ earlier.str.drop o.str.length) := by
  have hearlier := earlier.length_lt
  obtain ⟨pad, hpad⟩ : ∃ pad, SCRIPT_OUTPUT_BUFFER_SIZE - earlier.str.length = pad + 1 :=
    ⟨SCRIPT_OUTPUT_BUFFER_SIZE - earlier.str.length - 1, by omega⟩
  have hprior : (freadBlock (CharArray.zero _) earlier.str).bytes =
      earlier.str ++ List.replicate (pad + 1) 0 := by
    rw [bytes_freadBlock _ hearlier, CharArray.bytes_zero, List.drop_replicate, hpad]
  have hrest : ∀ b ∈ earlier.str.drop o.str.length, (b != 0) = true := by
    intro b hb
    have hne : b ≠ 0 := fun hzero => earlier.nul_not_mem (hzero ▸ List.mem_of_mem_drop hb)
    simpa using hne
  have hbehind : (freadBlock (CharArray.zero _) earlier.str).bytes.drop o.str.length =
      earlier.str.drop o.str.length ++ List.replicate (pad + 1) 0 := by
    rw [hprior, List.drop_append_of_le_length h]
  have hstr := str_freadBlock (freadBlock (CharArray.zero _) earlier.str) o
  rw [hbehind, List.takeWhile_append_of_pos hrest, List.replicate_succ,
    List.takeWhile_cons_of_neg (by decide), List.append_nil] at hstr
  have hmem :
      (0 : UInt8) ∈ (freadBlock (freadBlock (CharArray.zero _) earlier.str) o.str).bytes := by
    rw [bytes_freadBlock _ o.length_lt, hbehind, List.replicate_succ]
    simp
  rw [readString_eq _ ho, blockString_eq hmem, hstr]

/-! ## Two runs -/

/-- `update_page_info` on a page whose script prints `stream`, with a block that
held `prior`. -/
def updateFrom (prior : ScriptBlock) (stream : List UInt8) (overlay : Nat → Option UInt8)
    (hostBlock : Option (Nat → HostInfoSingle)) (page : Page) (t : Tables) :
    Option (Status × Tables) :=
  (readScript prior (some stream) overlay).map fun run =>
    updatePageInfo { script := fun _ => run, hostBlock := hostBlock } page t

/-- Two runs with the same output read that output, and leave the same status
and the same tables. -/
structure DependsOnOutputOnly (o : ScriptOutput) (prior₁ prior₂ : ScriptBlock)
    (overlay : Nat → Option UInt8) (hostBlock : Option (Nat → HostInfoSingle)) (page : Page)
    (t : Tables) : Prop where
  string₁ : readString prior₁ o.str = some o.str
  string₂ : readString prior₂ o.str = some o.str
  same : ∃ result, updateFrom prior₁ o.str overlay hostBlock page t = some result ∧
    updateFrom prior₂ o.str overlay hostBlock page t = some result

/-- If the updater finds the output, it runs on the output. -/
theorem updateFrom_eq {prior : ScriptBlock} {o : ScriptOutput} (ho : o.str ≠ [])
    (h : readString prior o.str = some o.str) (overlay : Nat → Option UInt8)
    (hostBlock : Option (Nat → HostInfoSingle)) (page : Page) (t : Tables) :
    updateFrom prior o.str overlay hostBlock page t =
      some (updatePageInfo
        { script := fun _ => { output := some o, overlay := overlay }, hostBlock := hostBlock }
        page t) := by
  rw [readString_eq prior ho] at h
  obtain ⟨out, hout, heq⟩ := Option.map_eq_some_iff.mp h
  have hsame : out = o := by
    cases out
    cases o
    cases heq
    rfl
  unfold updateFrom
  rw [readScript_eq prior ho, hout, hsame]
  rfl

/-- Two runs with the same output agree on everything exactly when both blocks
held a NUL right behind it. -/
theorem dependsOnOutputOnly_iff (o : ScriptOutput) (ho : o.str ≠ []) (prior₁ prior₂ : ScriptBlock)
    (overlay : Nat → Option UInt8) (hostBlock : Option (Nat → HostInfoSingle)) (page : Page)
    (t : Tables) :
    DependsOnOutputOnly o prior₁ prior₂ overlay hostBlock page t ↔
      prior₁.bytes[o.str.length]? = some 0 ∧ prior₂.bytes[o.str.length]? = some 0 := by
  rw [← readString_eq_some_iff prior₁ ho, ← readString_eq_some_iff prior₂ ho]
  constructor
  · intro h
    exact ⟨h.string₁, h.string₂⟩
  · intro ⟨h₁, h₂⟩
    exact ⟨h₁, h₂, _, updateFrom_eq ho h₁ overlay hostBlock page t,
      updateFrom_eq ho h₂ overlay hostBlock page t⟩

/-- The output "1", "10", "20" of the WAN script. -/
def longerOutput : ScriptOutput :=
  .ofText [0x31, NEWLINE, 0x31, 0x30, NEWLINE, 0x32, 0x30, NEWLINE] (by decide) (by decide)

/-- The output "0", "5", "7" of the WAN script, without the last newline. -/
def shorterOutput : ScriptOutput :=
  .ofText [0x30, NEWLINE, 0x35, NEWLINE, 0x37] (by decide) (by decide)

theorem dependsOnOutputOnly_iff_freshBlocks :
    DependsOnOutputOnly shorterOutput (CharArray.zero _) (CharArray.zero _) (fun _ => none) none
        .wan .init ↔
      (CharArray.zero SCRIPT_OUTPUT_BUFFER_SIZE).bytes[5]? = some 0 ∧
        (CharArray.zero SCRIPT_OUTPUT_BUFFER_SIZE).bytes[5]? = some 0 :=
  dependsOnOutputOnly_iff shorterOutput (by decide) _ _ _ _ _ _

/-- After the longer output the shorter one is read as "0", "5", "720". -/
theorem dependsOnOutputOnly_counterexample :
    ¬ ∀ o : ScriptOutput, o.str ≠ [] → ∀ (prior₁ prior₂ : ScriptBlock)
        (overlay : Nat → Option UInt8) (hostBlock : Option (Nat → HostInfoSingle)) (page : Page)
        (t : Tables), DependsOnOutputOnly o prior₁ prior₂ overlay hostBlock page t := by
  intro hall
  have h := (hall shorterOutput (by decide) (CharArray.zero _)
    (freadBlock (CharArray.zero _) longerOutput.str) (fun _ => none) none .wan .init).string₂
  rw [readString_reused longerOutput shorterOutput (by decide) (by decide)] at h
  exact absurd h (by decide)

end K3ScreenCtrl
