import K3ScreenCtrl.Daemon
import K3ScreenCtrl.Lib.Getopt
import K3ScreenCtrl.Lib.Ownership

/-!
# The command line

`config.c`: the defaults, the options, and the five script paths that
`g_config` owns.  The paths are copies that `strdup` makes, and an option frees
the copy that it replaces.  `refuses` says which calls of `strdup` fail.

* `configMain_owned` says for every command line that no block is freed twice
  and none is lost, the help option included, which leaves in the middle.
* `configMain_items` says what a command line means that writes its options in
  any of the ways that `getopt_long` accepts: each setting is the last that was
  given for it, or the default.  A script is a null pointer exactly if the last
  `strdup` for it was refused.
-/

namespace K3ScreenCtrl

open CString Getopt Ownership

/-! ## Tables -/

/-- The bytes of a literal. -/
def ascii (s : String) : List UInt8 := s.toList.map fun c => UInt8.ofNat c.toNat

def letter (c : Char) : UInt8 := UInt8.ofNat c.toNat

def longOptions : List (LongOption UInt8) :=
  [ ⟨ascii "help", .noArgument, letter 'h'⟩
  , ⟨ascii "foreground", .noArgument, letter 'f'⟩
  , ⟨ascii "skip-reset", .noArgument, letter 'r'⟩
  , ⟨ascii "test", .noArgument, letter 't'⟩
  , ⟨ascii "update-interval", .requiredArgument, letter 'd'⟩
  , ⟨ascii "screen-timeout", .requiredArgument, letter 'm'⟩
  , ⟨ascii "host-script", .requiredArgument, letter 's'⟩
  , ⟨ascii "wifi-script", .requiredArgument, letter 'w'⟩
  , ⟨ascii "port-script", .requiredArgument, letter 'p'⟩
  , ⟨ascii "wan-script", .requiredArgument, letter 'n'⟩
  , ⟨ascii "basic-info-script", .requiredArgument, letter 'i'⟩ ]

def shortOpts : List UInt8 := ascii "hfrtd:m:s:w:p:n:i:"

def options : Syntax UInt8 where
  dash := letter '-'
  equals := letter '='
  short := ofOptstring (letter ':') shortOpts
  long := longOptions

/-! ## Settings -/

/-- `CONFIG`.  A script is a pointer to the block with its path. -/
structure GConfig where
  basicInfoScript : Option Nat
  portScript : Option Nat
  wanScript : Option Nat
  wifiScript : Option Nat
  hostScript : Option Nat
  skipReset : Int
  foreground : Int
  testMode : Int
  updateInterval : Int
  screenTimeout : Int

/-- `g_config`, before anything was stored, and the blocks that `strdup` has
handed out. -/
structure ConfigState where
  gConfig : GConfig
  heap : Heap (List UInt8)

def ConfigState.init : ConfigState where
  gConfig := ⟨none, none, none, none, none, 0, 0, 0, 0, 0⟩
  heap := Heap.empty

/-- The member for the script of a page. -/
def GConfig.script (c : GConfig) : Page → Option Nat
  | .basicInfo => c.basicInfoScript
  | .ports => c.portScript
  | .wan => c.wanScript
  | .wifi => c.wifiScript
  | .hosts => c.hostScript

def GConfig.setScript (c : GConfig) (page : Page) (path : Option Nat) : GConfig :=
  match page with
  | .basicInfo => { c with basicInfoScript := path }
  | .ports => { c with portScript := path }
  | .wan => { c with wanScript := path }
  | .wifi => { c with wifiScript := path }
  | .hosts => { c with hostScript := path }

def defaultScript : Page → List UInt8
  | .basicInfo => ascii "/lib/k3screenctrl/basic.sh"
  | .ports => ascii "/lib/k3screenctrl/port.sh"
  | .wan => ascii "/lib/k3screenctrl/wan.sh"
  | .wifi => ascii "/lib/k3screenctrl/wifi.sh"
  | .hosts => ascii "/lib/k3screenctrl/host.sh"

def DEFAULT_UPDATE_INTERVAL : Int := 2
def DEFAULT_SCREEN_TIMEOUT : Int := 10

variable (refuses : Nat → Bool)

/-- `g_config.script = strdup(path)`, over a pointer that is dropped. -/
def ConfigState.strdupScript (s : ConfigState) (page : Page) (path : List UInt8) : ConfigState :=
  let (p, heap) := s.heap.alloc refuses path
  ⟨s.gConfig.setScript page p, heap⟩

/-- `config_load_defaults`. -/
def configLoadDefaults (s : ConfigState) : ConfigState :=
  let s := { s with
    gConfig := { s.gConfig with
      skipReset := 0
      foreground := 0
      testMode := 0
      updateInterval := DEFAULT_UPDATE_INTERVAL
      screenTimeout := DEFAULT_SCREEN_TIMEOUT } }
  [Page.hosts, .wifi, .ports, .wan, .basicInfo].foldl
    (fun s page => s.strdupScript refuses page (defaultScript page)) s

/-- `free(g_config.script); g_config.script = strdup(optarg);` -/
def ConfigState.replaceScript (s : ConfigState) (page : Page) (optarg : List UInt8) :
    Option ConfigState :=
  (s.heap.replace refuses (s.gConfig.script page) optarg).map fun (p, heap) =>
    ⟨s.gConfig.setScript page p, heap⟩

/-- Where the loop over the options goes: on, or out through the help text. -/
inductive Parsed where
  | running (s : ConfigState)
  | exited (s : ConfigState)

def Parsed.state : Parsed → ConfigState
  | .running s | .exited s => s

/-- The options that name a script, as they stand in the switch. -/
def scriptOptions : List (UInt8 × Page) :=
  [(letter 's', .hosts), (letter 'w', .wifi), (letter 'p', .ports), (letter 'n', .wan),
    (letter 'i', .basicInfo)]

/-- The body of the loop in `config_parse_cmdline`.  An option that reads
`optarg` without one would follow a null pointer. -/
def handleOption (s : ConfigState) : Result UInt8 → Option Parsed
  | .unknown => some (.running s)
  | .option val optarg =>
    if val = letter 'h' then some (.exited s)
    else if val = letter 'f' then
      some (.running { s with gConfig := { s.gConfig with foreground := 1 } })
    else if val = letter 'r' then
      some (.running { s with gConfig := { s.gConfig with skipReset := 1 } })
    else if val = letter 't' then
      some (.running { s with gConfig := { s.gConfig with testMode := 1 } })
    else if val = letter 'd' then
      optarg.map fun a => .running { s with gConfig := { s.gConfig with updateInterval := atoi a } }
    else if val = letter 'm' then
      optarg.map fun a => .running { s with gConfig := { s.gConfig with screenTimeout := atoi a } }
    else
      match scriptOptions.lookup val with
      | some page => optarg.bind fun a => (s.replaceScript refuses page a).map .running
      | none => some (.running s)

/-- `config_parse_cmdline`, on the answers of `getopt_long`. -/
def configParseCmdline (s : ConfigState) : List (Result UInt8) → Option Parsed
  | [] => some (.running s)
  | r :: results =>
    (handleOption refuses s r).bind fun
      | .running s => configParseCmdline s results
      | .exited s => some (.exited s)

/-- The first calls of `main`.  `argv` is without the name of the program. -/
def configMain (argv : List (List UInt8)) : Option Parsed :=
  configParseCmdline refuses (configLoadDefaults refuses .init) (options.parse none argv)

/-- `config_free`. -/
def configFree (s : ConfigState) : Option (Heap (List UInt8)) :=
  [Page.hosts, .wifi, .ports, .wan, .basicInfo].foldlM
    (fun heap page => heap.free (s.gConfig.script page)) s.heap

/-! ## What the options say -/

/-- The letter of the option for the script of a page. -/
def scriptLetter : Page → UInt8
  | .hosts => letter 's'
  | .wifi => letter 'w'
  | .ports => letter 'p'
  | .wan => letter 'n'
  | .basicInfo => letter 'i'

/-- The argument of an option, if the answer is that option. -/
def argOf (val : UInt8) : Result UInt8 → Option (List UInt8)
  | .option v optarg => if v = val then optarg else none
  | .unknown => none

/-- The last argument that was given for an option. -/
def lastArg (val : UInt8) (results : List (Result UInt8)) : Option (List UInt8) :=
  (results.filterMap (argOf val)).getLast?

/-- The answer is the option `val`. -/
def isOption (val : UInt8) : Result UInt8 → Bool
  | .option v _ => v = val
  | .unknown => false

/-- A flag that was given counts as 1. -/
def flagValue (val : UInt8) (results : List (Result UInt8)) : Int :=
  if results.any (isOption val) then 1 else 0

/-- The settings that are numbers, for some options. -/
structure NumbersSet (results : List (Result UInt8)) (c : GConfig) : Prop where
  skipReset : c.skipReset = flagValue (letter 'r') results
  foreground : c.foreground = flagValue (letter 'f') results
  testMode : c.testMode = flagValue (letter 't') results
  updateInterval :
    c.updateInterval = ((lastArg (letter 'd') results).map atoi).getD DEFAULT_UPDATE_INTERVAL
  screenTimeout :
    c.screenTimeout = ((lastArg (letter 'm') results).map atoi).getD DEFAULT_SCREEN_TIMEOUT

/-- The script paths for some options. -/
def scriptPaths (results : List (Result UInt8)) (page : Page) : List UInt8 :=
  (lastArg (scriptLetter page) results).getD (defaultScript page)

/-- The script whose path an option gives. -/
def scriptOf : Result UInt8 → Option Page
  | .option val _ => scriptOptions.lookup val
  | .unknown => none

/-- The scripts for which `strdup` is called, one call after the other: all of
them for the defaults, and then one for each option. -/
def strdupCalls (results : List (Result UInt8)) : List Page :=
  [.hosts, .wifi, .ports, .wan, .basicInfo] ++ results.filterMap scriptOf

/-- The settings are what the options say: each is the last that was given for
it, or the default.  The pointers own the heap.  Each script pointer is what the
last call of `strdup` for it answered, and if it is not null, it points at the
path of its script. -/
structure Configured (calls : List Page) (results : List (Result UInt8)) (s : ConfigState) :
    Prop where
  owns : Owns s.heap s.gConfig.script
  scripts : Stores s.heap s.gConfig.script (scriptPaths results)
  answered : Answered refuses calls s.heap s.gConfig.script
  numbers : NumbersSet results s.gConfig

/-! ## One more option -/

variable {calls : List Page} {results : List (Result UInt8)} {val val' : UInt8}
  {optarg : Option (List UInt8)}

theorem lastArg_concat_unknown : lastArg val (results ++ [.unknown]) = lastArg val results := by
  simp [lastArg, argOf]

theorem lastArg_concat_self (a : List UInt8) :
    lastArg val (results ++ [.option val (some a)]) = some a := by
  simp [lastArg, argOf]

theorem lastArg_concat_of_ne (h : val' ≠ val) :
    lastArg val (results ++ [.option val' optarg]) = lastArg val results := by
  simp [lastArg, argOf, h]

theorem flagValue_concat_unknown :
    flagValue val (results ++ [.unknown]) = flagValue val results := by
  simp [flagValue, isOption]

theorem flagValue_concat_self : flagValue val (results ++ [.option val optarg]) = 1 := by
  simp [flagValue, isOption]

theorem flagValue_concat_of_ne (h : val' ≠ val) :
    flagValue val (results ++ [.option val' optarg]) = flagValue val results := by
  simp [flagValue, isOption, h]

theorem script_setScript (c : GConfig) (page : Page) (path : Option Nat) :
    (c.setScript page path).script = Function.update c.script page path := by
  funext page'
  cases page <;> cases page' <;> rfl

theorem scriptOptions_lookup {page : Page} :
    scriptOptions.lookup val = some page ↔ val = scriptLetter page := by
  constructor
  · intro h
    obtain ⟨front, back, hlist, _⟩ := List.lookup_eq_some_iff.mp h
    have hall : ∀ e ∈ scriptOptions, e.1 = scriptLetter e.2 := by decide
    exact hall (val, page) (by rw [hlist]; simp)
  · rintro rfl
    cases page <;> decide

theorem scriptLetter_injective {p q : Page} (h : scriptLetter p = scriptLetter q) : p = q := by
  cases p <;> cases q <;> first | rfl | exact absurd h (by decide)

/-- The option of one script changes the path of that script. -/
theorem scriptPaths_concat (page : Page) (a : List UInt8) :
    scriptPaths (results ++ [.option (scriptLetter page) (some a)]) =
      Function.update (scriptPaths results) page a := by
  funext page'
  unfold scriptPaths
  by_cases h : page' = page
  · rw [h, lastArg_concat_self, Function.update_self]
    rfl
  · have hne : scriptLetter page ≠ scriptLetter page' := by
      intro heq
      exact h (scriptLetter_injective heq).symm
    rw [lastArg_concat_of_ne hne, Function.update_of_ne h]

/-- Other options change no path. -/
theorem scriptPaths_concat_of_ne (h : ∀ page, val ≠ scriptLetter page) :
    scriptPaths (results ++ [.option val optarg]) = scriptPaths results := by
  funext page
  unfold scriptPaths
  rw [lastArg_concat_of_ne (h page)]

/-- Other options call no `strdup`. -/
theorem scriptOf_of_ne (h : ∀ page, val ≠ scriptLetter page) :
    scriptOf (.option val optarg) = none := by
  cases hlookup : scriptOptions.lookup val with
  | none => exact hlookup
  | some page => exact absurd (scriptOptions_lookup.mp hlookup) (h page)

theorem strdupCalls_concat (r : Result UInt8) :
    strdupCalls (results ++ [r]) = strdupCalls results ++ (scriptOf r).toList := by
  unfold strdupCalls
  rw [List.filterMap_append, List.append_assoc]
  cases hscript : scriptOf r <;> simp [hscript]

/-- The letters of the settings that are numbers. -/
def numberLetters : List UInt8 := [letter 'r', letter 'f', letter 't', letter 'd', letter 'm']

theorem ne_scriptLetter (h : val ∈ letter 'h' :: numberLetters) (page : Page) :
    val ≠ scriptLetter page := by
  have hletter : scriptLetter page ∉ letter 'h' :: numberLetters := by
    cases page <;> decide
  intro heq
  exact hletter (heq ▸ h)

theorem NumbersSet.other {c : GConfig} (h : NumbersSet results c) (hval : val ∉ numberLetters) :
    NumbersSet (results ++ [.option val optarg]) c := by
  have hne : ∀ v ∈ numberLetters, val ≠ v := fun v hv heq => hval (heq ▸ hv)
  refine ⟨?_, ?_, ?_, ?_, ?_⟩
  · rw [flagValue_concat_of_ne (hne _ (by decide)), h.skipReset]
  · rw [flagValue_concat_of_ne (hne _ (by decide)), h.foreground]
  · rw [flagValue_concat_of_ne (hne _ (by decide)), h.testMode]
  · rw [lastArg_concat_of_ne (hne _ (by decide)), h.updateInterval]
  · rw [lastArg_concat_of_ne (hne _ (by decide)), h.screenTimeout]

theorem NumbersSet.setScript {c : GConfig} (h : NumbersSet results c) (page : Page)
    (path : Option Nat) : NumbersSet results (c.setScript page path) := by
  cases page <;> exact ⟨h.skipReset, h.foreground, h.testMode, h.updateInterval, h.screenTimeout⟩

variable {refuses}

/-- An answer of which no setting takes notice. -/
theorem Configured.unknown {s : ConfigState} (h : Configured refuses calls results s) :
    Configured refuses (calls ++ (scriptOf .unknown).toList) (results ++ [.unknown]) s where
  owns := h.owns
  answered := by
    have hnone : scriptOf .unknown = none := rfl
    rw [hnone, Option.toList_none, List.append_nil]
    exact h.answered
  scripts := by
    have hpaths : scriptPaths (results ++ [.unknown]) = scriptPaths results := by
      funext page
      unfold scriptPaths
      rw [lastArg_concat_unknown]
    rw [hpaths]
    exact h.scripts
  numbers :=
    { skipReset := by rw [flagValue_concat_unknown, h.numbers.skipReset]
      foreground := by rw [flagValue_concat_unknown, h.numbers.foreground]
      testMode := by rw [flagValue_concat_unknown, h.numbers.testMode]
      updateInterval := by rw [lastArg_concat_unknown, h.numbers.updateInterval]
      screenTimeout := by rw [lastArg_concat_unknown, h.numbers.screenTimeout] }

/-- The option of a script. -/
theorem Configured.script {s : ConfigState} (h : Configured refuses calls results s) (page : Page)
    (a : List UInt8) :
    ∃ s', s.replaceScript refuses page a = some s' ∧
      Configured refuses (calls ++ (scriptOf (.option (scriptLetter page) (some a))).toList)
        (results ++ [.option (scriptLetter page) (some a)]) s' := by
  obtain ⟨p, heap, hreplace, howns, hstores⟩ := h.owns.replace h.scripts page refuses a
  refine ⟨⟨s.gConfig.setScript page p, heap⟩, by rw [ConfigState.replaceScript, hreplace]; rfl, ?_⟩
  have hletter : scriptLetter page ∉ numberLetters := by
    cases page <;> decide
  refine ⟨?_, ?_, ?_, (h.numbers.other hletter).setScript page p⟩
  · rw [script_setScript]
    exact howns
  · rw [script_setScript, scriptPaths_concat]
    exact hstores
  · have hpage : scriptOf (.option (scriptLetter page) (some a)) = some page :=
      scriptOptions_lookup.mpr rfl
    rw [script_setScript, hpage]
    exact h.answered.replace hreplace

/-- An option that sets a number, or none at all. -/
theorem Configured.number {s : ConfigState} {c : GConfig}
    (h : Configured refuses calls results s)
    (hscript : c.script = s.gConfig.script) (hval : ∀ page, val ≠ scriptLetter page)
    (hnumbers : NumbersSet (results ++ [.option val optarg]) c) :
    Configured refuses (calls ++ (scriptOf (.option val optarg)).toList)
      (results ++ [.option val optarg]) { s with gConfig := c } where
  owns := by
    rw [hscript]
    exact h.owns
  answered := by
    rw [hscript, scriptOf_of_ne hval, Option.toList_none, List.append_nil]
    exact h.answered
  scripts := by
    rw [hscript, scriptPaths_concat_of_ne hval]
    exact h.scripts
  numbers := hnumbers

/-- An answer that `getopt_long` can give: the options with an argument come
with one. -/
def Complete (r : Result UInt8) : Prop := ∀ val, r = .option val none → options.HasFlag val

/-- Only the four flags come without an argument. -/
theorem mem_flags_of_hasFlag (h : options.HasFlag val) :
    val ∈ [letter 'h', letter 'f', letter 'r', letter 't'] := by
  rcases h with h | ⟨o, ho, rfl, hkind⟩
  · obtain ⟨front, back, hlist, _⟩ := List.lookup_eq_some_iff.mp h
    have hall : ∀ e ∈ options.short, e.2 = .noArgument →
        e.1 ∈ [letter 'h', letter 'f', letter 'r', letter 't'] := by
      decide +kernel
    exact hall (val, .noArgument) (by rw [hlist]; simp) rfl
  · have hall : ∀ o ∈ longOptions, o.hasArg = .noArgument →
        o.val ∈ [letter 'h', letter 'f', letter 'r', letter 't'] := by
      decide +kernel
    exact hall o ho hkind

theorem Complete.exists_optarg (h : Complete (.option val optarg))
    (hval : val ∉ [letter 'h', letter 'f', letter 'r', letter 't']) : ∃ a, optarg = some a := by
  cases optarg with
  | none => exact absurd (mem_flags_of_hasFlag (h val rfl)) hval
  | some a => exact ⟨a, rfl⟩

variable (refuses)

/-- One option: nothing is freed that is not owned, and the settings follow. -/
theorem handleOption_spec {s : ConfigState} {r : Result UInt8}
    (h : Configured refuses calls results s) (hr : Complete r) :
    ∃ s', handleOption refuses s r =
        some (if isOption (letter 'h') r then .exited s' else .running s') ∧
      Configured refuses (calls ++ (scriptOf r).toList) (results ++ [r]) s' := by
  cases r with
  | unknown => exact ⟨s, rfl, h.unknown⟩
  | option val optarg =>
    have hn := h.numbers
    unfold handleOption
    dsimp only
    by_cases hh : val = letter 'h'
    · subst hh
      refine ⟨s, rfl, ?_⟩
      exact h.number rfl (ne_scriptLetter (by decide)) (hn.other (by decide))
    rw [if_neg hh, show isOption (letter 'h') (.option val optarg) = false from decide_eq_false hh]
    by_cases hf : val = letter 'f'
    · subst hf
      refine ⟨_, rfl, h.number rfl (ne_scriptLetter (by decide))
        ⟨?_, flagValue_concat_self.symm, ?_, ?_, ?_⟩⟩
      · rw [flagValue_concat_of_ne (by decide), ← hn.skipReset]
      · rw [flagValue_concat_of_ne (by decide), ← hn.testMode]
      · rw [lastArg_concat_of_ne (by decide), ← hn.updateInterval]
      · rw [lastArg_concat_of_ne (by decide), ← hn.screenTimeout]
    rw [if_neg hf]
    by_cases hskip : val = letter 'r'
    · subst hskip
      refine ⟨_, rfl, h.number rfl (ne_scriptLetter (by decide))
        ⟨flagValue_concat_self.symm, ?_, ?_, ?_, ?_⟩⟩
      · rw [flagValue_concat_of_ne (by decide), ← hn.foreground]
      · rw [flagValue_concat_of_ne (by decide), ← hn.testMode]
      · rw [lastArg_concat_of_ne (by decide), ← hn.updateInterval]
      · rw [lastArg_concat_of_ne (by decide), ← hn.screenTimeout]
    rw [if_neg hskip]
    by_cases ht : val = letter 't'
    · subst ht
      refine ⟨_, rfl, h.number rfl (ne_scriptLetter (by decide))
        ⟨?_, ?_, flagValue_concat_self.symm, ?_, ?_⟩⟩
      · rw [flagValue_concat_of_ne (by decide), ← hn.skipReset]
      · rw [flagValue_concat_of_ne (by decide), ← hn.foreground]
      · rw [lastArg_concat_of_ne (by decide), ← hn.updateInterval]
      · rw [lastArg_concat_of_ne (by decide), ← hn.screenTimeout]
    rw [if_neg ht]
    obtain ⟨a, rfl⟩ := hr.exists_optarg (by simp [hh, hf, hskip, ht])
    by_cases hd : val = letter 'd'
    · subst hd
      refine ⟨_, rfl, h.number rfl (ne_scriptLetter (by decide)) ⟨?_, ?_, ?_, ?_, ?_⟩⟩
      · rw [flagValue_concat_of_ne (by decide), ← hn.skipReset]
      · rw [flagValue_concat_of_ne (by decide), ← hn.foreground]
      · rw [flagValue_concat_of_ne (by decide), ← hn.testMode]
      · rw [lastArg_concat_self]
        rfl
      · rw [lastArg_concat_of_ne (by decide), ← hn.screenTimeout]
    rw [if_neg hd]
    by_cases hm : val = letter 'm'
    · subst hm
      refine ⟨_, rfl, h.number rfl (ne_scriptLetter (by decide)) ⟨?_, ?_, ?_, ?_, ?_⟩⟩
      · rw [flagValue_concat_of_ne (by decide), ← hn.skipReset]
      · rw [flagValue_concat_of_ne (by decide), ← hn.foreground]
      · rw [flagValue_concat_of_ne (by decide), ← hn.testMode]
      · rw [lastArg_concat_of_ne (by decide), ← hn.updateInterval]
      · rw [lastArg_concat_self]
        rfl
    rw [if_neg hm]
    cases hlookup : scriptOptions.lookup val with
    | some page =>
      obtain rfl := scriptOptions_lookup.mp hlookup
      obtain ⟨s', hs', hconf⟩ := h.script page a
      refine ⟨s', ?_, hconf⟩
      dsimp only
      rw [Option.bind_some, hs']
      rfl
    | none =>
      have hother : ∀ page, val ≠ scriptLetter page := by
        intro page heq
        rw [scriptOptions_lookup.mpr heq] at hlookup
        cases hlookup
      refine ⟨s, rfl, h.number rfl hother (hn.other ?_)⟩
      simp [numberLetters, hf, hskip, ht, hd, hm]

/-- The loop over the options, up to the first help option. -/
theorem configParseCmdline_spec {done : List (Result UInt8)} {s : ConfigState}
    (h : Configured refuses (strdupCalls done) done s) (hresults : ∀ r ∈ results, Complete r) :
    ∃ s', configParseCmdline refuses s results =
        some (if results.any (isOption (letter 'h')) then .exited s' else .running s') ∧
      ∃ n, Configured refuses (strdupCalls (done ++ results.take n)) (done ++ results.take n) s' ∧
        (results.any (isOption (letter 'h')) = false → n = results.length) := by
  induction results generalizing done s with
  | nil => exact ⟨s, rfl, 0, by simpa using h, fun _ => rfl⟩
  | cons r results ih =>
    obtain ⟨s₁, hstep, hconf⟩ := handleOption_spec refuses h (hresults r List.mem_cons_self)
    rw [← strdupCalls_concat] at hconf
    rw [configParseCmdline, hstep, Option.bind_some, List.any_cons]
    cases hhelp : isOption (letter 'h') r with
    | true => exact ⟨s₁, rfl, 1, by simpa using hconf, fun hno => by cases hno⟩
    | false =>
      obtain ⟨s', hrest, n, hconf', hall⟩ :=
        ih hconf fun r' hr' => hresults r' (List.mem_cons_of_mem r hr')
      refine ⟨s', by rw [Bool.false_or]; exact hrest, n + 1, ?_, ?_⟩
      · rw [List.take_succ_cons]
        simpa using hconf'
      · intro hno
        rw [hall hno, List.length_cons]

/-- A default for a script that has no path yet. -/
theorem Configured.strdup {s : ConfigState} (h : Configured refuses calls [] s) {page : Page}
    (hnull : s.gConfig.script page = none) :
    Configured refuses (calls ++ [page]) [] (s.strdupScript refuses page (defaultScript page)) := by
  have hpaths : Function.update (scriptPaths []) page (defaultScript page) = scriptPaths [] :=
    Function.update_eq_self page (scriptPaths [])
  refine ⟨?_, ?_, ?_, h.numbers.setScript page _⟩
  · show Owns _ (s.gConfig.setScript page _).script
    rw [script_setScript]
    exact h.owns.alloc hnull refuses _
  · show Stores _ (s.gConfig.setScript page _).script _
    rw [script_setScript, ← hpaths]
    exact h.scripts.alloc h.owns page refuses _
  · show Answered _ _ _ (s.gConfig.setScript page _).script
    rw [script_setScript]
    exact h.answered.alloc rfl page _

/-- The defaults are what no option says. -/
theorem configured_defaults :
    Configured refuses (strdupCalls []) [] (configLoadDefaults refuses .init) := by
  have hfold : ∀ (pages calls : List Page) (s : ConfigState), pages.Nodup →
      Configured refuses calls [] s → (∀ page ∈ pages, s.gConfig.script page = none) →
        Configured refuses (calls ++ pages) []
          (pages.foldl (fun s page => s.strdupScript refuses page (defaultScript page)) s) := by
    intro pages
    induction pages with
    | nil =>
      intro calls s _ h _
      rw [List.append_nil]
      exact h
    | cons page pages ih =>
      intro calls s hnodup h hnull
      obtain ⟨hnew, hnodup⟩ := List.nodup_cons.mp hnodup
      rw [List.append_cons]
      refine ih _ _ hnodup (h.strdup refuses (hnull page List.mem_cons_self)) ?_
      intro page' hpage'
      have hne : page' ≠ page := by
        rintro rfl
        exact hnew hpage'
      show (s.gConfig.setScript page _).script page' = none
      rw [script_setScript, Function.update_of_ne hne]
      exact hnull page' (List.mem_cons_of_mem page hpage')
  refine hfold _ [] _ (by decide) ⟨?_, ?_, Answered.empty _ _, ⟨rfl, rfl, rfl, rfl, rfl⟩⟩ ?_
  · have hscript : GConfig.script
        ⟨none, none, none, none, none, 0, 0, 0, DEFAULT_UPDATE_INTERVAL, DEFAULT_SCREEN_TIMEOUT⟩ =
          fun _ => none := by
      funext page
      cases page <;> rfl
    show Owns Heap.empty (GConfig.script
      ⟨none, none, none, none, none, 0, 0, 0, DEFAULT_UPDATE_INTERVAL, DEFAULT_SCREEN_TIMEOUT⟩)
    rw [hscript]
    exact Owns.empty
  · intro page k hk
    cases page <;> cases hk
  · intro page _
    cases page <;> rfl

/-- What a command line leaves, whatever it says. -/
theorem configMain_spec (argv : List (List UInt8)) :
    ∃ s, configMain refuses argv =
        some (if (options.parse none argv).any (isOption (letter 'h')) then .exited s
          else .running s) ∧
      ∃ n, Configured refuses (strdupCalls ((options.parse none argv).take n))
          ((options.parse none argv).take n) s ∧
        ((options.parse none argv).any (isOption (letter 'h')) = false →
          n = (options.parse none argv).length) := by
  have hcomplete : ∀ r ∈ options.parse none argv, Complete r := by
    rintro r hr val rfl
    exact hasFlag_of_parse hr
  exact configParseCmdline_spec refuses (configured_defaults refuses) hcomplete

/-- Whatever the command line is and whichever calls of `strdup` fail, the
options are handled without a double or wild `free`, and the `config_free` of
the exit handler frees what is left, each block once, so that nothing is lost.
That includes the exit through the help option. -/
theorem configMain_owned (argv : List (List UInt8)) :
    ∃ parsed heap, configMain refuses argv = some parsed ∧
      configFree parsed.state = some heap ∧ heap.live = [] := by
  obtain ⟨s, hmain, n, hconf, _⟩ := configMain_spec refuses argv
  obtain ⟨heap, hfree, hempty⟩ := hconf.owns.freeAll
    (l := [Page.hosts, .wifi, .ports, .wan, .basicInfo]) (by decide) (by
      intro page _
      cases page <;> decide)
  refine ⟨_, heap, hmain, ?_, hempty⟩
  rw [← hfree]
  split <;> rfl

/-- A command line whose options are written in any of the accepted ways, with
other words between them and anything behind two dashes, sets what it says:
each setting is the last that was given for it, or the default, and a script is
null exactly if the last `strdup` for it was refused. -/
theorem configMain_items (items : List (Item UInt8)) (hitems : ∀ item ∈ items, options.Proper item)
    (hhelp : ∀ r ∈ items.flatMap options.meaning, isOption (letter 'h') r = false)
    (rest : List (List UInt8)) (hrest : rest.head? = none ∨ rest.head? = some (ascii "--")) :
    ∃ s, configMain refuses (items.flatMap options.words ++ rest) = some (.running s) ∧
      Configured refuses (strdupCalls (items.flatMap options.meaning))
        (items.flatMap options.meaning) s := by
  have hend : options.parse none rest = [] := by
    cases rest with
    | nil => rfl
    | cons w words =>
      have hw : w = [options.dash, options.dash] := by
        rcases hrest with hnone | hdashes
        · cases hnone
        · exact Option.some_inj.mp hdashes
      rw [hw]
      exact parse_dashes words
  have hparse : options.parse none (items.flatMap options.words ++ rest) =
      items.flatMap options.meaning := by
    rw [parse_items hitems, hend, List.append_nil]
  have hany : (items.flatMap options.meaning).any (isOption (letter 'h')) = false :=
    List.any_eq_false.mpr fun r hr => by rw [hhelp r hr]; decide
  obtain ⟨s, hmain, n, hconf, hall⟩ :=
    configMain_spec refuses (items.flatMap options.words ++ rest)
  rw [hparse, hany] at hmain hall
  rw [hparse, hall rfl, List.take_length] at hconf
  exact ⟨s, hmain, hconf⟩

/-- `-rfd5 x --host /tmp/h.sh --screen-timeout=30 -- -t` -/
def sampleItems : List (Item UInt8) :=
  [ .attached [letter 'r', letter 'f'] (letter 'd') (ascii "5")
  , .operand (ascii "x")
  , .longSeparate (ascii "host") (ascii "/tmp/h.sh")
  , .longEquals (ascii "screen-timeout") (ascii "30") ]

theorem proper_sampleItems : ∀ item ∈ sampleItems, options.Proper item := by
  have hlong : ∀ name ∈ [ascii "host", ascii "screen-timeout"],
      options.Names name .requiredArgument := by
    intro name hname
    rcases List.mem_cons.mp hname with rfl | hname
    · exact ⟨by decide, by decide, ⟨ascii "host-script", .requiredArgument, letter 's'⟩,
        by decide +kernel, rfl⟩
    · rw [List.mem_singleton.mp hname]
      exact ⟨by decide, by decide, ⟨ascii "screen-timeout", .requiredArgument, letter 'm'⟩,
        by decide +kernel, rfl⟩
  intro item hitem
  simp only [sampleItems, List.mem_cons, List.not_mem_nil, or_false] at hitem
  rcases hitem with rfl | rfl | rfl | rfl
  · refine ⟨?_, ⟨by decide, by decide +kernel⟩, by decide⟩
    intro c hc
    rcases List.mem_cons.mp hc with rfl | hc
    · exact ⟨by decide, by decide +kernel⟩
    · rw [List.mem_singleton.mp hc]
      exact ⟨by decide, by decide +kernel⟩
  · exact Or.inl (by decide)
  · exact hlong _ (by simp)
  · exact hlong _ (by simp)

/-- The calls of `strdup` for it are those of the defaults and one for `--host`. -/
theorem configMain_items_sample :
    ∃ s, configMain (fun k => k = 2)
        (sampleItems.flatMap options.words ++ [ascii "--", ascii "-t"]) = some (.running s) ∧
      Configured (fun k => k = 2) [.hosts, .wifi, .ports, .wan, .basicInfo, .hosts]
        (sampleItems.flatMap options.meaning) s := by
  have hall : (sampleItems.flatMap options.meaning).all fun r => !isOption (letter 'h') r := by
    decide +kernel
  have hcalls : strdupCalls (sampleItems.flatMap options.meaning) =
      [.hosts, .wifi, .ports, .wan, .basicInfo, .hosts] := by
    decide +kernel
  rw [← hcalls]
  refine configMain_items (fun k => k = 2) sampleItems proper_sampleItems ?_
    [ascii "--", ascii "-t"] (Or.inr rfl)
  intro r hr
  simpa using List.all_eq_true.mp hall r hr

end K3ScreenCtrl
