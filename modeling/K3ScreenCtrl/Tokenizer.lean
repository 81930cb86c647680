import K3ScreenCtrl.Lib.CString
import K3ScreenCtrl.Lib.Pieces
import K3ScreenCtrl.Lib.Place

/-!
# The tokenizer

The head of `infocenter.c`: `token_store`, which writes one token to the place
a store names, and `tokenize_and_store`, which cuts a script's output at the
delimiter and hands the tokens to a list of stores.

A store is an update of a state `σ`, so one tokenizer serves every table, and
`TokenStore.at` points the stores for a structure at a place that holds one.
`tokenizeAndStore_eq` says what the tokenizer does: the pieces of the string go
to the stores in order, and what it returns is the string behind those pieces.
`tokenizeAndStore_reference` says the same without the functions that this model
brings: against the reference split, and by what it does to a part of the state
that one store writes.
-/

namespace K3ScreenCtrl

open CString Pieces

variable {σ τ : Type}

/-- `struct _token_store`: the kind of a token and the place it goes to. -/
inductive TokenStore (σ : Type) where
  /-- `TOKEN_STRING_NEW`: keep a pointer to the token itself. -/
  | stringNew (put : List UInt8 → σ → σ)
  /-- `TOKEN_STRING_OVERWRITE`: copy into an array of `storageLen` bytes. -/
  | stringOverwrite (storageLen : Nat)
      (modify : (CharArray storageLen → CharArray storageLen) → σ → σ)
  /-- `TOKEN_UINT`. -/
  | uint (put : UInt32 → σ → σ)
  /-- `TOKEN_BYTE`. -/
  | byte (put : UInt8 → σ → σ)

/-- A store for a structure, pointed at a place that holds one. -/
def TokenStore.at (place : Place σ τ) : TokenStore τ → TokenStore σ
  | .stringNew put => .stringNew fun token => place.modify (put token)
  | .stringOverwrite storageLen modify =>
    .stringOverwrite storageLen fun f => place.modify (modify f)
  | .uint put => .uint fun v => place.modify (put v)
  | .byte put => .byte fun v => place.modify (put v)

/-- `token_store`. -/
def tokenStore (storeInfo : TokenStore σ) (token : List UInt8) : σ → σ :=
  match storeInfo with
  | .stringNew put => put token
  | .stringOverwrite _ modify => modify (storeString token)
  | .uint put => put (UInt32.ofInt (atoi token))
  | .byte put => put (UInt8.ofInt (atoi token))

/-- `strchr`, as an offset. -/
def strchr (s : List UInt8) (c : UInt8) : Option Nat := s.idxOf? c

/-- The `while` loop of `tokenize_and_store`: where the last token starts, the
stores that are left, and the state. -/
def tokenizeLoop (delim : UInt8) : List (TokenStore σ) → List UInt8 → σ →
    List UInt8 × List (TokenStore σ) × σ
  | [], lastStart, s => (lastStart, [], s)
  | store :: stores, lastStart, s =>
    match strchr lastStart delim with
    | none => (lastStart, store :: stores, s)
    | some nextToken =>
      tokenizeLoop delim stores (lastStart.drop (nextToken + 1))
        (tokenStore store (lastStart.take nextToken) s)

/-- `tokenize_and_store`.  It returns where it left, and the state. -/
def tokenizeAndStore (str : List UInt8) (delim : UInt8) (stores : List (TokenStore σ)) (s : σ) :
    List UInt8 × σ :=
  match tokenizeLoop delim stores str s with
  | (lastStart, [], s) => (lastStart, s)
  | (lastStart, store :: _, s) =>
    -- the input is not delimiter-terminated: the last token was not processed
    if lastStart ≠ [] then ([], tokenStore store lastStart s) else (lastStart, s)

/-! ## What the tokenizer does -/

/-- The tokens go to the stores in order, as far as both last. -/
def storeTokens (stores : List (TokenStore σ)) (tokens : List (List UInt8)) (s : σ) : σ :=
  (stores.zip tokens).foldl (fun s p => tokenStore p.1 p.2 s) s

@[simp] theorem storeTokens_nil (tokens : List (List UInt8)) (s : σ) :
    storeTokens [] tokens s = s := rfl

@[simp] theorem storeTokens_nil_right (stores : List (TokenStore σ)) (s : σ) :
    storeTokens stores [] s = s := by
  simp [storeTokens]

@[simp] theorem storeTokens_cons (store : TokenStore σ) (stores : List (TokenStore σ))
    (token : List UInt8) (tokens : List (List UInt8)) (s : σ) :
    storeTokens (store :: stores) (token :: tokens) s =
      storeTokens stores tokens (tokenStore store token s) := rfl

/-- The tokenizer stores the pieces of its input and returns what is behind
them. -/
theorem tokenizeAndStore_eq (delim : UInt8) (stores : List (TokenStore σ)) (str : List UInt8)
    (s : σ) :
    tokenizeAndStore str delim stores s =
      (afterPieces delim stores.length str, storeTokens stores (pieces delim str) s) := by
  induction stores generalizing str s with
  | nil => rfl
  | cons store stores ih =>
    cases hfind : str.idxOf? delim with
    | none =>
      have hmem : delim ∉ str := List.idxOf?_eq_none_iff.mp hfind
      rw [tokenizeAndStore, tokenizeLoop, strchr, hfind, List.length_cons, afterPieces, hfind]
      show (if str ≠ [] then ([], tokenStore store str s) else (str, s)) = _
      by_cases hs : str = []
      · simp [hs]
      · simp [hs, pieces_of_not_mem hs hmem]
    | some i =>
      obtain ⟨hsplit, hmem⟩ := eq_append_of_idxOf? hfind
      have hloop : tokenizeAndStore str delim (store :: stores) s =
          tokenizeAndStore (str.drop (i + 1)) delim stores (tokenStore store (str.take i) s) := by
        rw [tokenizeAndStore, tokenizeLoop, strchr, hfind]
        rfl
      have hrest : afterPieces delim (stores.length + 1) str =
          afterPieces delim stores.length (str.drop (i + 1)) := by
        rw [afterPieces, hfind]
      have hpieces : pieces delim str = str.take i :: pieces delim (str.drop (i + 1)) := by
        conv_lhs => rw [hsplit]
        exact pieces_append_cons hmem _
      rw [hloop, ih, List.length_cons, hrest, hpieces, storeTokens_cons]

theorem tokenStore_at (place : Place σ τ) (store : TokenStore τ) (token : List UInt8) :
    tokenStore (store.at place) token = place.modify (tokenStore store token) := by
  cases store <;> rfl

/-- Stores that are pointed at a place change what it holds. -/
theorem storeTokens_at (place : Place σ τ) (stores : List (TokenStore τ))
    (tokens : List (List UInt8)) (s : σ) :
    storeTokens (stores.map (.at place)) tokens s =
      place.modify (storeTokens stores tokens) s := by
  induction stores generalizing tokens s with
  | nil => exact (place.modify_id s).symm
  | cons store stores ih =>
    cases tokens with
    | nil => exact (place.modify_id s).symm
    | cons token tokens =>
      rw [List.map_cons, storeTokens_cons, ih, tokenStore_at, place.modify_modify]
      rfl

/-- What every store keeps on tokens of the kind `Q`, a list of such tokens
keeps. -/
theorem storeTokens_invariant {P : σ → Prop} {Q : List UInt8 → Prop} {stores : List (TokenStore σ)}
    (h : ∀ store ∈ stores, ∀ token, Q token → ∀ s, P s → P (tokenStore store token s))
    {tokens : List (List UInt8)} (htokens : ∀ token ∈ tokens, Q token) {s : σ} (hs : P s) :
    P (storeTokens stores tokens s) := by
  induction stores generalizing tokens s with
  | nil => exact hs
  | cons store stores ih =>
    cases tokens with
    | nil => exact hs
    | cons token tokens =>
      rw [storeTokens_cons]
      refine ih (fun st hst => h st (List.mem_cons_of_mem store hst))
        (fun tok htok => htokens tok (List.mem_cons_of_mem token htok)) ?_
      exact h store (by simp) token (htokens token (by simp)) s hs

/-- No more stores and no more tokens are used than both lists have. -/
theorem storeTokens_take_min (stores : List (TokenStore σ)) (tokens : List (List UInt8)) (s : σ) :
    storeTokens (stores.take (min stores.length tokens.length))
      (tokens.take (min stores.length tokens.length)) s = storeTokens stores tokens s := by
  rw [storeTokens, storeTokens, ← List.zip_eq_zip_take_min]

/-- Further stores go on with the tokens that the first ones leave. -/
theorem storeTokens_append (stores more : List (TokenStore σ)) (tokens : List (List UInt8))
    (s : σ) :
    storeTokens (stores ++ more) tokens s =
      storeTokens more (tokens.drop stores.length) (storeTokens stores tokens s) := by
  induction stores generalizing tokens s with
  | nil => rfl
  | cons store stores ih =>
    cases tokens with
    | nil => simp
    | cons token tokens => exact ih tokens _

/-! ## One part of the state -/

/-- The store leaves a part of the state alone, whatever the token. -/
def TokenStore.Spares (store : TokenStore σ) (part : σ → τ) : Prop :=
  ∀ token s, part (tokenStore store token s) = part s

/-- On this part of the state, the store does what `put` does. -/
def TokenStore.Puts (store : TokenStore σ) (part : σ → τ) (put : List UInt8 → τ → τ) : Prop :=
  ∀ token s, part (tokenStore store token s) = put token (part s)

/-- A `TOKEN_STRING_NEW` store keeps the token. -/
theorem TokenStore.puts_stringNew {part : σ → List UInt8} {put : List UInt8 → σ → σ}
    (h : ∀ token s, part (put token s) = token) :
    (TokenStore.stringNew put).Puts part fun token _ => token :=
  fun token s => h token s

/-- A `TOKEN_STRING_OVERWRITE` store copies the token into its array. -/
theorem TokenStore.puts_stringOverwrite {storageLen : Nat} {part : σ → CharArray storageLen}
    {modify : (CharArray storageLen → CharArray storageLen) → σ → σ}
    (h : ∀ f s, part (modify f s) = f (part s)) :
    (TokenStore.stringOverwrite storageLen modify).Puts part storeString :=
  fun token s => h (storeString token) s

/-- A `TOKEN_UINT` store writes what `atoi` makes of the token, in 32 bits. -/
theorem TokenStore.puts_uint {part : σ → UInt32} {put : UInt32 → σ → σ}
    (h : ∀ v s, part (put v s) = v) :
    (TokenStore.uint put).Puts part fun token _ => UInt32.ofInt (atoi token) :=
  fun token s => h (UInt32.ofInt (atoi token)) s

/-- A `TOKEN_BYTE` store writes the lowest byte of it. -/
theorem TokenStore.puts_byte {part : σ → UInt8} {put : UInt8 → σ → σ}
    (h : ∀ v s, part (put v s) = v) :
    (TokenStore.byte put).Puts part fun token _ => UInt8.ofInt (atoi token) :=
  fun token s => h (UInt8.ofInt (atoi token)) s

/-- What every store that gets a token leaves alone stays as it was. -/
theorem storeTokens_spares {part : σ → τ} {stores : List (TokenStore σ)}
    {tokens : List (List UInt8)}
    (h : ∀ i, (hi : i < stores.length) → i < tokens.length → stores[i].Spares part) (s : σ) :
    part (storeTokens stores tokens s) = part s := by
  induction stores generalizing tokens s with
  | nil => rfl
  | cons store stores ih =>
    cases tokens with
    | nil => rfl
    | cons token tokens =>
      have hrest : ∀ i, (hi : i < stores.length) → i < tokens.length → stores[i].Spares part :=
        fun i hi hit => h (i + 1) (Nat.succ_lt_succ hi) (Nat.succ_lt_succ hit)
      rw [storeTokens_cons, ih hrest]
      exact h 0 (Nat.succ_pos _) (Nat.succ_pos _) token s

/-- A part that one store writes gets that store's token. -/
theorem storeTokens_puts {part : σ → τ} {put : List UInt8 → τ → τ} {stores : List (TokenStore σ)}
    {tokens : List (List UInt8)} {i : Nat} (hi : i < stores.length) (hit : i < tokens.length)
    (hput : stores[i].Puts part put)
    (hothers : ∀ j, (hj : j < stores.length) → j ≠ i → stores[j].Spares part) (s : σ) :
    part (storeTokens stores tokens s) = put tokens[i] (part s) := by
  induction stores generalizing tokens i s with
  | nil => exact absurd hi (Nat.not_lt_zero i)
  | cons store stores ih =>
    cases tokens with
    | nil => exact absurd hit (Nat.not_lt_zero i)
    | cons token tokens =>
      rw [storeTokens_cons]
      cases i with
      | zero =>
        -- the first store writes the part, and the later ones leave it alone
        have hrest : ∀ j, (hj : j < stores.length) → j < tokens.length → stores[j].Spares part :=
          fun j hj _ => hothers (j + 1) (Nat.succ_lt_succ hj) (Nat.succ_ne_zero j)
        rw [storeTokens_spares hrest]
        exact hput token s
      | succ i =>
        have hfirst : part (tokenStore store token s) = part s :=
          hothers 0 (Nat.succ_pos _) (Nat.succ_ne_zero i).symm token s
        have hrest : ∀ j, (hj : j < stores.length) → j ≠ i → stores[j].Spares part :=
          fun j hj hne => hothers (j + 1) (Nat.succ_lt_succ hj) fun heq => hne (Nat.succ.inj heq)
        rw [ih (Nat.lt_of_succ_lt_succ hi) (Nat.lt_of_succ_lt_succ hit) hput hrest, hfirst]
        rfl

/-! ## The reference split -/

/-- What `result` must be when `str` is cut at `delim` and its pieces go to
`stores`, in the words of the reference split. -/
structure TokenizedAs (str : List UInt8) (delim : UInt8) (stores : List (TokenStore σ)) (s : σ)
    (result : List UInt8 × σ) : Prop where
  /-- The first pieces go to the first stores, in order, and nothing else is
  stored. -/
  inOrder : result.2 = storeTokens
    (stores.take (min stores.length (referenceSplit delim str).length))
    ((referenceSplit delim str).take (min stores.length (referenceSplit delim str).length)) s
  /-- Piece `i` is in the place of store `i`. -/
  stored : ∀ (τ : Type) (part : σ → τ) (put : List UInt8 → τ → τ) (i : Nat)
    (hi : i < stores.length) (hip : i < (referenceSplit delim str).length),
    stores[i].Puts part put →
    (∀ j, (hj : j < stores.length) → j ≠ i → stores[j].Spares part) →
    part result.2 = put (referenceSplit delim str)[i] (part s)
  /-- A store for a new string keeps its piece. -/
  string : ∀ (part : σ → List UInt8) (put : List UInt8 → σ → σ) (i : Nat)
    (hi : i < stores.length) (hip : i < (referenceSplit delim str).length),
    stores[i] = .stringNew put → (∀ token s, part (put token s) = token) →
    (∀ j, (hj : j < stores.length) → j ≠ i → stores[j].Spares part) →
    part result.2 = (referenceSplit delim str)[i]
  /-- A store for an array of bytes copies its piece there. -/
  array : ∀ (n : Nat) (part : σ → CharArray n) (modify : (CharArray n → CharArray n) → σ → σ)
    (i : Nat) (hi : i < stores.length) (hip : i < (referenceSplit delim str).length),
    stores[i] = .stringOverwrite n modify → (∀ f s, part (modify f s) = f (part s)) →
    (∀ j, (hj : j < stores.length) → j ≠ i → stores[j].Spares part) →
    part result.2 = storeString (referenceSplit delim str)[i] (part s)
  /-- A store for an `unsigned int` writes the value of its piece. -/
  uint : ∀ (part : σ → UInt32) (put : UInt32 → σ → σ) (i : Nat)
    (hi : i < stores.length) (hip : i < (referenceSplit delim str).length),
    stores[i] = .uint put → (∀ v s, part (put v s) = v) →
    (∀ j, (hj : j < stores.length) → j ≠ i → stores[j].Spares part) →
    part result.2 = UInt32.ofInt (atoi (referenceSplit delim str)[i])
  /-- So does a store for a byte. -/
  byte : ∀ (part : σ → UInt8) (put : UInt8 → σ → σ) (i : Nat)
    (hi : i < stores.length) (hip : i < (referenceSplit delim str).length),
    stores[i] = .byte put → (∀ v s, part (put v s) = v) →
    (∀ j, (hj : j < stores.length) → j ≠ i → stores[j].Spares part) →
    part result.2 = UInt8.ofInt (atoi (referenceSplit delim str)[i])
  /-- The stores that get no piece change nothing. -/
  unchanged : ∀ (τ : Type) (part : σ → τ),
    (∀ i, (hi : i < stores.length) → i < (referenceSplit delim str).length →
      stores[i].Spares part) →
    part result.2 = part s
  /-- What is returned is a suffix of the string. -/
  suffix : result.1 <:+ str
  /-- Its pieces are the pieces that are not stored. -/
  rest : referenceSplit delim result.1 = (referenceSplit delim str).drop stores.length
  /-- It is empty exactly when every piece is stored. -/
  empty : result.1 = [] ↔ (referenceSplit delim str).length ≤ stores.length
  /-- Tokenizing it with more stores is tokenizing the string with all of them. -/
  resumed : ∀ more : List (TokenStore σ),
    tokenizeAndStore result.1 delim more result.2 = tokenizeAndStore str delim (stores ++ more) s

/-- The tokenizer is the reference split, and it can be resumed. -/
theorem tokenizeAndStore_reference (str : List UInt8) (delim : UInt8)
    (stores : List (TokenStore σ)) (s : σ) :
    TokenizedAs str delim stores s (tokenizeAndStore str delim stores s) := by
  rw [tokenizeAndStore_eq]
  have hstored : ∀ {τ : Type} {part : σ → τ} {put : List UInt8 → τ → τ} {i : Nat}
      (hi : i < stores.length) (hip : i < (referenceSplit delim str).length),
      stores[i].Puts part put →
      (∀ j, (hj : j < stores.length) → j ≠ i → stores[j].Spares part) →
      part (storeTokens stores (pieces delim str) s) =
        put (referenceSplit delim str)[i] (part s) := by
    intro τ part put i hi hip hput hothers
    rw [pieces_eq_referenceSplit]
    exact storeTokens_puts hi hip hput hothers s
  constructor
  case inOrder => rw [storeTokens_take_min, pieces_eq_referenceSplit]
  case stored => exact fun τ part put i hi hip hput hothers => hstored hi hip hput hothers
  case string =>
    intro part put i hi hip heq hpart hothers
    exact hstored hi hip (heq ▸ TokenStore.puts_stringNew hpart) hothers
  case array =>
    intro n part modify i hi hip heq hpart hothers
    exact hstored hi hip (heq ▸ TokenStore.puts_stringOverwrite hpart) hothers
  case uint =>
    intro part put i hi hip heq hpart hothers
    exact hstored hi hip (heq ▸ TokenStore.puts_uint hpart) hothers
  case byte =>
    intro part put i hi hip heq hpart hothers
    exact hstored hi hip (heq ▸ TokenStore.puts_byte hpart) hothers
  case unchanged =>
    intro τ part hspares
    rw [pieces_eq_referenceSplit]
    exact storeTokens_spares hspares s
  case suffix => exact afterPieces_suffix _ _
  case rest => rw [← pieces_eq_referenceSplit, pieces_afterPieces, pieces_eq_referenceSplit]
  case empty => rw [afterPieces_eq_nil_iff, pieces_eq_referenceSplit]
  case resumed =>
    intro more
    rw [tokenizeAndStore_eq, tokenizeAndStore_eq, afterPieces_afterPieces, pieces_afterPieces,
      storeTokens_append, List.length_append]

end K3ScreenCtrl
