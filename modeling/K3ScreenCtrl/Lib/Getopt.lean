import Mathlib.Data.List.TakeWhile

/-!
# Command line options

What a loop over `getopt_long` of the GNU C library gets from a command line,
for options without an argument and options that require one.  Letters and
words are over any alphabet.

`Syntax` holds the option tables.  `parse` lists the answers of the calls, up
to the one that ends the loop.  An option that still needs its argument takes
the next word, whatever it looks like.

An option that requires an argument always comes with one (`hasFlag_of_parse`).

`Item` is how options are written: flags in one word, an argument in the same
word or in the next, a long name with or without an argument, and words that
are no options at all.  `parse_items` reads items back.
-/

namespace Getopt

variable {α : Type} [DecidableEq α]

/-- `has_arg` of an option. -/
inductive HasArg where
  | noArgument
  | requiredArgument
deriving DecidableEq

/-- `struct option`, for an option that is known by its letter `val`. -/
structure LongOption (α : Type) where
  name : List α
  hasArg : HasArg
  val : α
deriving DecidableEq

/-- The option tables, and the two symbols with a meaning in a word. -/
structure Syntax (α : Type) where
  dash : α
  equals : α
  short : List (α × HasArg)
  long : List (LongOption α)

/-- The short options of an option string: a letter with a colon behind it
requires an argument. -/
def ofOptstring (colon : α) : List α → List (α × HasArg)
  | [] => []
  | [c] => [(c, .noArgument)]
  | c :: mark :: rest =>
    if mark = colon then (c, .requiredArgument) :: ofOptstring colon rest
    else (c, .noArgument) :: ofOptstring colon (mark :: rest)

/-- An answer of `getopt_long`: an option with `optarg`, or the question mark
for an unknown, ambiguous or incomplete one. -/
inductive Result (α : Type) where
  | option (val : α) (optarg : Option (List α))
  | unknown
deriving DecidableEq

/-- The long option that a name means: an exact match, or else the only option
that the name begins. -/
def Syntax.lookup (g : Syntax α) (name : List α) : Option (LongOption α) :=
  match g.long.find? fun o => o.name = name with
  | some o => some o
  | none =>
    match g.long.filter fun o => name.isPrefixOf o.name with
    | [o] => some o
    | _ => none

/-- What a word gives: some answers, and the option that waits for the next
word as its argument. -/
structure Reading (α : Type) where
  results : List (Result α)
  waiting : Option α

/-- The letters behind one dash. -/
def Syntax.cluster (g : Syntax α) : List α → Reading α
  | [] => ⟨[], none⟩
  | c :: cs =>
    match g.short.lookup c with
    | some .noArgument =>
      let rest := g.cluster cs
      ⟨.option c none :: rest.results, rest.waiting⟩
    | some .requiredArgument => if cs = [] then ⟨[], some c⟩ else ⟨[.option c (some cs)], none⟩
    | none =>
      let rest := g.cluster cs
      ⟨.unknown :: rest.results, rest.waiting⟩

/-- The value behind the first `equals`, if there is one. -/
def Syntax.value (g : Syntax α) (s : List α) : Option (List α) :=
  match s.dropWhile (· ≠ g.equals) with
  | [] => none
  | _ :: value => some value

/-- The name, and possibly the value, behind two dashes. -/
def Syntax.longWord (g : Syntax α) (s : List α) : Reading α :=
  match g.lookup (s.takeWhile (· ≠ g.equals)) with
  | none => ⟨[.unknown], none⟩
  | some o =>
    match o.hasArg, g.value s with
    | .noArgument, none => ⟨[.option o.val none], none⟩
    | .noArgument, some _ => ⟨[.unknown], none⟩
    | .requiredArgument, none => ⟨[], some o.val⟩
    | .requiredArgument, some value => ⟨[.option o.val (some value)], none⟩

/-- A word: `none` for the two dashes that end the options. -/
def Syntax.word (g : Syntax α) (w : List α) : Option (Reading α) :=
  match w with
  | first :: second :: rest =>
    if first ≠ g.dash then some ⟨[], none⟩
    else if second ≠ g.dash then some (g.cluster (second :: rest))
    else if rest = [] then none
    else some (g.longWord rest)
  -- shorter words are no options
  | _ => some ⟨[], none⟩

/-- The answers of the calls on a command line.  Words that are no options are
passed over. -/
def Syntax.parse (g : Syntax α) : Option α → List (List α) → List (Result α)
  | none, [] => []
  | some _, [] => [.unknown]
  | some val, w :: words => .option val (some w) :: g.parse none words
  | none, w :: words =>
    match g.word w with
    | none => []
    | some reading => reading.results ++ g.parse reading.waiting words

/-! ## Arguments -/

variable {g : Syntax α}

/-- The option is in one of the tables, as one without an argument. -/
def Syntax.HasFlag (g : Syntax α) (val : α) : Prop :=
  g.short.lookup val = some .noArgument ∨ ∃ o ∈ g.long, o.val = val ∧ o.hasArg = .noArgument

theorem mem_of_lookup {name : List α} {o : LongOption α} (h : g.lookup name = some o) :
    o ∈ g.long := by
  unfold Syntax.lookup at h
  split at h
  · next hfind =>
    cases h
    exact List.mem_of_find?_eq_some hfind
  · split at h
    · next hfilter =>
      cases h
      have hmem : o ∈ g.long.filter fun o => name.isPrefixOf o.name := by
        rw [hfilter]
        exact List.mem_singleton_self o
      exact (List.mem_filter.mp hmem).1
    · cases h

theorem hasFlag_of_cluster {val : α} {cs : List α} (h : .option val none ∈ (g.cluster cs).results) :
    g.HasFlag val := by
  induction cs with
  | nil => exact absurd h List.not_mem_nil
  | cons c cs ih =>
    rw [Syntax.cluster] at h
    split at h
    · next hflag =>
      rcases List.mem_cons.mp h with h | h
      · cases h
        exact Or.inl hflag
      · exact ih h
    · split at h
      · exact absurd h List.not_mem_nil
      · cases List.mem_singleton.mp h
    · rcases List.mem_cons.mp h with h | h
      · cases h
      · exact ih h

theorem hasFlag_of_longWord {val : α} {s : List α} (h : .option val none ∈ (g.longWord s).results) :
    g.HasFlag val := by
  unfold Syntax.longWord at h
  split at h
  · cases List.mem_singleton.mp h
  · next o hlookup =>
    split at h
    · next hkind _ =>
      cases List.mem_singleton.mp h
      exact Or.inr ⟨o, mem_of_lookup hlookup, rfl, hkind⟩
    · cases List.mem_singleton.mp h
    · exact absurd h List.not_mem_nil
    · cases List.mem_singleton.mp h

/-- An option that requires an argument is never answered without one. -/
theorem hasFlag_of_parse {val : α} {words : List (List α)} {waiting : Option α}
    (h : .option val none ∈ g.parse waiting words) : g.HasFlag val := by
  induction words generalizing waiting with
  | nil =>
    cases waiting with
    | none => exact absurd h List.not_mem_nil
    | some _ => cases List.mem_singleton.mp h
  | cons w words ih =>
    cases waiting with
    | some _ =>
      rcases List.mem_cons.mp h with h | h
      · cases h
      · exact ih h
    | none =>
      rw [Syntax.parse] at h
      cases hword : g.word w with
      | none =>
        rw [hword] at h
        exact absurd h List.not_mem_nil
      | some reading =>
        rw [hword] at h
        rcases List.mem_append.mp h with h | h
        · unfold Syntax.word at hword
          split at hword
          · split at hword
            · cases hword
              exact absurd h List.not_mem_nil
            · split at hword
              · cases hword
                exact hasFlag_of_cluster h
              · split at hword
                · cases hword
                · cases hword
                  exact hasFlag_of_longWord h
          · cases hword
            exact absurd h List.not_mem_nil
        · exact ih h

/-! ## Writing options -/

/-- A way to write something on a command line. -/
inductive Item (α : Type) where
  | operand (w : List α)
  | flags (first : α) (cs : List α)
  | attached (cs : List α) (val : α) (optarg : List α)
  | separate (cs : List α) (val : α) (optarg : List α)
  | longFlag (name : List α)
  | longEquals (name optarg : List α)
  | longSeparate (name optarg : List α)

/-- The words of an item. -/
def Syntax.words (g : Syntax α) : Item α → List (List α)
  | .operand w => [w]
  | .flags first cs => [g.dash :: first :: cs]
  | .attached cs val optarg => [g.dash :: (cs ++ val :: optarg)]
  | .separate cs val optarg => [g.dash :: (cs ++ [val]), optarg]
  | .longFlag name => [g.dash :: g.dash :: name]
  | .longEquals name optarg => [g.dash :: g.dash :: (name ++ g.equals :: optarg)]
  | .longSeparate name optarg => [g.dash :: g.dash :: name, optarg]

/-- The options of an item. -/
def Syntax.meaning (g : Syntax α) : Item α → List (Result α)
  | .operand _ => []
  | .flags first cs => (first :: cs).map fun c => .option c none
  | .attached cs val optarg | .separate cs val optarg =>
    cs.map (fun c => .option c none) ++ [.option val (some optarg)]
  | .longFlag name =>
    match g.lookup name with
    | none => [.unknown]
    | some o => [.option o.val none]
  | .longEquals name optarg | .longSeparate name optarg =>
    match g.lookup name with
    | none => [.unknown]
    | some o => [.option o.val (some optarg)]

/-- A letter of an option without an argument. -/
def Syntax.IsFlag (g : Syntax α) (c : α) : Prop :=
  c ≠ g.dash ∧ g.short.lookup c = some .noArgument

/-- A letter of an option with an argument. -/
def Syntax.TakesArgument (g : Syntax α) (c : α) : Prop :=
  c ≠ g.dash ∧ g.short.lookup c = some .requiredArgument

/-- A long name, possibly abbreviated, of an option of the given kind. -/
def Syntax.Names (g : Syntax α) (name : List α) (hasArg : HasArg) : Prop :=
  name ≠ [] ∧ g.equals ∉ name ∧ ∃ o, g.lookup name = some o ∧ o.hasArg = hasArg

/-- The item is written as the tables want it. -/
def Syntax.Proper (g : Syntax α) : Item α → Prop
  | .operand w => w.length < 2 ∨ w.head? ≠ some g.dash
  | .flags first cs => ∀ c ∈ first :: cs, g.IsFlag c
  | .attached cs val optarg => (∀ c ∈ cs, g.IsFlag c) ∧ g.TakesArgument val ∧ optarg ≠ []
  | .separate cs val _ => (∀ c ∈ cs, g.IsFlag c) ∧ g.TakesArgument val
  | .longFlag name => g.Names name .noArgument
  | .longEquals name _ | .longSeparate name _ => g.Names name .requiredArgument

/-- Flags at the front of a cluster. -/
theorem cluster_append {cs : List α} (hcs : ∀ c ∈ cs, g.IsFlag c) (rest : List α) :
    g.cluster (cs ++ rest) =
      ⟨cs.map (fun c => .option c none) ++ (g.cluster rest).results, (g.cluster rest).waiting⟩ := by
  induction cs with
  | nil => rfl
  | cons c cs ih =>
    have hflag := (hcs c List.mem_cons_self).2
    rw [List.cons_append, Syntax.cluster, hflag]
    dsimp only
    rw [ih fun c' hc' => hcs c' (List.mem_cons_of_mem c hc')]
    rfl

/-- A word that begins with one dash. -/
theorem word_cluster (cs : List α) {c : α} (hcs : ∀ c ∈ cs, g.IsFlag c) (hc : c ≠ g.dash)
    (rest : List α) :
    g.word (g.dash :: (cs ++ c :: rest)) = some (g.cluster (cs ++ c :: rest)) := by
  cases cs with
  | nil =>
    rw [List.nil_append, Syntax.word, if_neg (not_not.mpr rfl), if_pos hc]
  | cons first cs =>
    have hfirst := (hcs first List.mem_cons_self).1
    rw [List.cons_append, Syntax.word, if_neg (not_not.mpr rfl), if_pos hfirst]

/-- A word that begins with two dashes. -/
theorem word_long {s : List α} (hs : s ≠ []) :
    g.word (g.dash :: g.dash :: s) = some (g.longWord s) := by
  rw [Syntax.word, if_neg (not_not.mpr rfl), if_neg (not_not.mpr rfl), if_neg hs]

omit [DecidableEq α] in
theorem ne_of_mem {name : List α} {equals : α} (h : equals ∉ name) : ∀ c ∈ name, c ≠ equals := by
  intro c hc heq
  rw [heq] at hc
  exact h hc

theorem value_of_not_mem {name : List α} (h : g.equals ∉ name) : g.value name = none := by
  have hnil : name.dropWhile (· ≠ g.equals) = [] := by
    rw [List.dropWhile_eq_nil_iff]
    simpa using ne_of_mem h
  rw [Syntax.value, hnil]

theorem takeWhile_of_not_mem {name : List α} (h : g.equals ∉ name) :
    name.takeWhile (· ≠ g.equals) = name := by
  rw [List.takeWhile_eq_self_iff]
  simpa using ne_of_mem h

theorem split_equals {name : List α} (h : g.equals ∉ name) (value : List α) :
    (name ++ g.equals :: value).takeWhile (· ≠ g.equals) = name ∧
      g.value (name ++ g.equals :: value) = some value := by
  have hne : ∀ c ∈ name, decide (c ≠ g.equals) = true := by
    simpa using ne_of_mem h
  refine ⟨?_, ?_⟩
  · rw [List.takeWhile_append_of_pos hne]
    simp
  · rw [Syntax.value, List.dropWhile_append_of_pos hne]
    simp

/-- An item is read as what it means, whatever follows. -/
theorem parse_item {item : Item α} (h : g.Proper item) (words : List (List α)) :
    g.parse none (g.words item ++ words) = g.meaning item ++ g.parse none words := by
  cases item with
  | operand w =>
    have hword : g.word w = some ⟨[], none⟩ := by
      match w, h with
      | [], _ => rfl
      | [_], _ => rfl
      | first :: second :: rest, h =>
        have hne : first ≠ g.dash := by
          rcases h with hlen | hhead
          · simp only [List.length_cons] at hlen
            omega
          · simpa using hhead
        exact if_pos hne
    show g.parse none (w :: words) = g.parse none words
    rw [Syntax.parse, hword]
    rfl
  | flags first cs =>
    have hword := word_cluster [] (fun _ hc => absurd hc List.not_mem_nil)
      (h first List.mem_cons_self).1 cs
    have hcluster := cluster_append h []
    rw [List.append_nil] at hcluster
    show g.parse none ((g.dash :: first :: cs) :: words) = _
    rw [Syntax.parse, show g.word (g.dash :: first :: cs) = _ from hword, List.nil_append, hcluster]
    dsimp only [Syntax.cluster]
    rw [List.append_nil]
    rfl
  | attached cs val optarg =>
    obtain ⟨hcs, hval, hne⟩ := h
    have hlast : g.cluster (val :: optarg) = ⟨[.option val (some optarg)], none⟩ := by
      rw [Syntax.cluster, hval.2]
      exact if_neg hne
    show g.parse none ((g.dash :: (cs ++ val :: optarg)) :: words) = _
    rw [Syntax.parse, word_cluster _ hcs hval.1, cluster_append hcs, hlast]
    rfl
  | separate cs val optarg =>
    obtain ⟨hcs, hval⟩ := h
    have hlast : g.cluster [val] = ⟨[], some val⟩ := by
      rw [Syntax.cluster, hval.2]
      rfl
    show g.parse none ((g.dash :: (cs ++ [val])) :: optarg :: words) = _
    rw [Syntax.parse, word_cluster _ hcs hval.1, cluster_append hcs, hlast]
    dsimp only
    rw [List.append_nil, Syntax.parse]
    show _ = (cs.map _ ++ [_]) ++ _
    rw [List.append_assoc]
    rfl
  | longFlag name =>
    obtain ⟨hne, hequals, o, hlookup, hkind⟩ := h
    show g.parse none ((g.dash :: g.dash :: name) :: words) = _
    rw [Syntax.parse, word_long hne, Syntax.longWord, takeWhile_of_not_mem hequals, hlookup,
      Syntax.meaning, hlookup]
    dsimp only
    rw [hkind, value_of_not_mem hequals]
  | longEquals name optarg =>
    obtain ⟨hne, hequals, o, hlookup, hkind⟩ := h
    obtain ⟨hname, hvalue⟩ := split_equals hequals optarg
    show g.parse none ((g.dash :: g.dash :: (name ++ g.equals :: optarg)) :: words) = _
    rw [Syntax.parse, word_long (List.append_ne_nil_of_left_ne_nil hne _), Syntax.longWord, hname,
      hlookup, Syntax.meaning, hlookup]
    dsimp only
    rw [hkind, hvalue]
  | longSeparate name optarg =>
    obtain ⟨hne, hequals, o, hlookup, hkind⟩ := h
    show g.parse none ((g.dash :: g.dash :: name) :: optarg :: words) = _
    rw [Syntax.parse, word_long hne, Syntax.longWord, takeWhile_of_not_mem hequals, hlookup,
      Syntax.meaning, hlookup]
    dsimp only
    rw [hkind, value_of_not_mem hequals]
    rfl

/-- Items are read as what they mean, one after the other. -/
theorem parse_items {items : List (Item α)} (h : ∀ item ∈ items, g.Proper item)
    (words : List (List α)) :
    g.parse none (items.flatMap g.words ++ words) =
      items.flatMap g.meaning ++ g.parse none words := by
  induction items with
  | nil => rfl
  | cons item items ih =>
    rw [List.flatMap_cons, List.flatMap_cons, List.append_assoc,
      parse_item (h item List.mem_cons_self),
      ih fun item' hitem => h item' (List.mem_cons_of_mem item hitem), List.append_assoc]

/-- Nothing is read behind two dashes. -/
theorem parse_dashes (words : List (List α)) :
    g.parse none ([g.dash, g.dash] :: words) = [] := by
  rw [Syntax.parse, Syntax.word, if_neg (not_not.mpr rfl), if_neg (not_not.mpr rfl), if_pos rfl]

end Getopt
