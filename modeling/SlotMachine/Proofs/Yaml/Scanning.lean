import SlotMachine.Proofs.Yaml.Scalars
import SlotMachine.Yaml.Token

/-!
# Cutting a text into tokens

A text is cut from left to right, so that the parts of a text can be looked at one after the other,
each with all that follows it still in place. `Leads` says that the cutting comes from one state to
another, and `Stands` what matters of a state between two parts: what is to be read, the tokens and
the open collections. No candidate for a key need be kept there.

There is one lemma for each kind of part: a key with its colon, a scalar behind a colon, an item of
a block list, and the marks of a mapping in braces.
-/

namespace SlotMachine

namespace Yaml

/-! ### Ordinary characters -/

/-- The character may stand in a text, and it stays as it is. -/
structure IsOrdinary (c : Char) : Prop where
  printable : isPrintable c = true
  ne_return : c ≠ '\r'
  ne_nextLine : c ≠ '\u0085'

instance (c : Char) : Decidable (IsOrdinary c) :=
  decidable_of_iff (isPrintable c = true ∧ c ≠ '\r' ∧ c ≠ '\u0085')
    ⟨fun h => ⟨h.1, h.2.1, h.2.2⟩, fun h => ⟨h.1, h.2, h.3⟩⟩

lemma isPrintable_of_isAlphanum {c : Char} (h : c.isAlphanum = true) : isPrintable c = true := by
  have hrange : 0x20 ≤ c.val ∧ c.val ≤ 0x7E := by
    rcases Bool.or_eq_true_iff.1 h with hletter | hdigit
    · rcases Bool.or_eq_true_iff.1 hletter with hupper | hlower
      · have hrange : 65 ≤ c.val ∧ c.val ≤ 90 := of_decide_eq_true hupper
        grind
      · obtain ⟨hlow, hhigh⟩ := Bool.and_eq_true_iff.1 hlower
        have hrange : 97 ≤ c.val ∧ c.val ≤ 122 := ⟨of_decide_eq_true hlow, of_decide_eq_true hhigh⟩
        grind
    · obtain ⟨hlow, hhigh⟩ := Bool.and_eq_true_iff.1 hdigit
      have hrange : 48 ≤ c.val ∧ c.val ≤ 57 := ⟨of_decide_eq_true hlow, of_decide_eq_true hhigh⟩
      grind
  simp [isPrintable, hrange]

lemma isOrdinary_of_isAlphanum {c : Char} (h : c.isAlphanum = true) : IsOrdinary c where
  printable := isPrintable_of_isAlphanum h
  ne_return := ne_of_isAlphanum h rfl
  ne_nextLine := ne_of_isAlphanum h rfl

lemma IsWord.isOrdinary {word : List Char} (h : IsWord word) : ∀ c ∈ word, IsOrdinary c :=
  fun c hc => isOrdinary_of_isAlphanum (h.alphanum c hc)

lemma isOrdinary_of_mem_margin {width : Nat} {c : Char} (h : c ∈ margin width) : IsOrdinary c := by
  rcases mem_margin h with rfl | rfl <;> decide

lemma normalize_eq {cs : List Char} (h : ∀ c ∈ cs, IsOrdinary c) : normalize cs = cs := by
  induction cs with
  | nil => rfl
  | cons c cs ih =>
    obtain ⟨hc, hcs⟩ := List.forall_mem_cons.1 h
    unfold normalize
    split
    case h_1 heq => cases heq; exact absurd rfl hc.ne_return
    case h_2 heq => cases heq; exact absurd rfl hc.ne_return
    case h_3 heq => cases heq; exact absurd rfl hc.ne_nextLine
    case h_4 heq => cases heq; rw [ih hcs]
    case h_5 heq => cases heq

namespace Scanner

variable {s t r : Scanner} {c : Char} {cs gap rest follow : List Char} {token : Token}

/-! ### Reading on -/

/-- The cutting comes from `s` to `t`, and no token is cut from nothing. -/
def Leads (s t : Scanner) : Prop :=
  ∃ n, n + t.rest.length ≤ s.rest.length ∧ ∀ fuel, run? (n + fuel) s = run? fuel t

lemma Leads.refl (s : Scanner) : s.Leads s :=
  ⟨0, by omega, fun fuel => by rw [Nat.zero_add]⟩

lemma Leads.trans (h : s.Leads t) (h' : t.Leads r) : s.Leads r := by
  obtain ⟨n, hn, hrun⟩ := h
  obtain ⟨n', hn', hrun'⟩ := h'
  refine ⟨n + n', by omega, fun fuel => ?_⟩
  rw [Nat.add_assoc, hrun, hrun']

/-- The fuel for a text is enough for what is left of it. -/
lemma Leads.run?_eq (h : s.Leads t) :
    ∃ fuel, run? (s.rest.length + 1) s = run? (fuel + 1) t := by
  obtain ⟨n, hn, hrun⟩ := h
  refine ⟨s.rest.length - n, ?_⟩
  rw [← hrun]
  congr 1
  omega

/-- The state in which the next token is cut: after the gap, without candidates that are out of
reach, and with those blocks closed that end before the token. -/
def ready? (s : Scanner) : Option Scanner :=
  let (rest, place, keyAllowed) := toToken s.inFlow false s.keyAllowed s.place s.rest
  { s with rest, place, keyAllowed }.dropStale?.map fun (s : Scanner) =>
    s.closeBlocks (· ≤ s.place.column)

lemma rest_closeBlocks (keep : Nat → Bool) : (s.closeBlocks keep).rest = s.rest := by
  unfold closeBlocks
  split <;> rfl

lemma run?_of_next (hready : s.ready? = some r) (hrest : r.rest = c :: cs)
    (hnext : r.next? c cs = some t) (fuel : Nat) : run? (fuel + 1) s = run? fuel t := by
  obtain ⟨s', hstale, rfl⟩ := Option.map_eq_some_iff.1 hready
  rw [rest_closeBlocks] at hrest
  rw [run?]
  dsimp only at hstale ⊢
  rw [hstale]
  simp [hrest, hnext]

lemma leads_of_run? (hrun : ∀ fuel, run? (fuel + 1) s = run? fuel t)
    (hlength : t.rest.length < s.rest.length) : s.Leads t :=
  ⟨1, by omega, fun fuel => by rw [Nat.add_comm, hrun]⟩

lemma leads_of_next (hready : s.ready? = some r) (hrest : r.rest = c :: cs)
    (hnext : r.next? c cs = some t) (hlength : t.rest.length < s.rest.length) : s.Leads t :=
  leads_of_run? (run?_of_next hready hrest hnext) hlength

/-! ### Gaps -/

/-- The text is made of line breaks and blanks. -/
def IsGap (gap : List Char) : Prop := ∀ c ∈ gap, c = '\n' ∨ c = ' '

lemma isGap_nil : IsGap [] := List.forall_mem_nil _

lemma isGap_blank : IsGap [' '] := by simp [IsGap]

lemma isGap_margin (width : Nat) : IsGap (margin width) := fun _ => mem_margin

lemma toToken_gap (hgap : IsGap gap) (hrest : ∀ c ∈ rest.head?, Solid c)
    (inFlow keyAllowed : Bool) (p : Place) :
    toToken inFlow false keyAllowed p (gap ++ rest) =
      (rest, p.afterAll gap, keyAllowed || (!inFlow && gap.any isBreak)) := by
  induction gap generalizing keyAllowed p with
  | nil =>
    cases rest with
    | nil => simp [toToken]
    | cons c rest =>
      obtain ⟨hsolid, hhash⟩ := hrest c rfl
      simp only [isGap, isSpace, Bool.or_eq_false_iff, decide_eq_false_iff_not] at hsolid
      simp [toToken, hsolid, hhash]
  | cons d gap ih =>
    obtain ⟨hd, htail⟩ := List.forall_mem_cons.1 hgap
    rcases hd with rfl | rfl
    · simp only [List.cons_append, toToken, isBreak, ih htail, List.any_cons]
      cases inFlow <;> simp
    · simp [toToken, isBreak, ih htail]

/-! ### Candidates -/

/-- Nothing is missing without the candidate. -/
def Idle (candidate : Option Candidate) : Prop := ∀ c ∈ candidate, c.required = false

lemma idle_none : Idle none := nofun

lemma fresh?_of_idle {candidate : Option Candidate} (h : Idle candidate) (p : Place) :
    ∃ candidate', fresh? p candidate = some candidate' ∧ Idle candidate' := by
  cases candidate with
  | none => exact ⟨none, rfl, idle_none⟩
  | some c =>
    have hc : c.required = false := h c rfl
    rw [fresh?, hc]
    split
    · exact ⟨none, rfl, idle_none⟩
    · exact ⟨some c, rfl, h⟩

lemma mapM_fresh?_of_idle {candidates : List (Option Candidate)}
    (h : ∀ candidate ∈ candidates, Idle candidate) (p : Place) :
    ∃ candidates', candidates.mapM (fresh? p) = some candidates' ∧
      (∀ candidate ∈ candidates', Idle candidate) ∧ candidates'.length = candidates.length := by
  induction candidates with
  | nil => exact ⟨[], rfl, List.forall_mem_nil _, rfl⟩
  | cons candidate candidates ih =>
    obtain ⟨hcandidate, hcandidates⟩ := List.forall_mem_cons.1 h
    obtain ⟨candidate', hfresh, hidle⟩ := fresh?_of_idle hcandidate p
    obtain ⟨candidates', hfresh', hidle', hlength⟩ := ih hcandidates
    refine ⟨candidate' :: candidates', ?_, List.forall_mem_cons.2 ⟨hidle, hidle'⟩, ?_⟩
    · simp [List.mapM_cons, hfresh, hfresh']
    · simp [hlength]

lemma dropCandidate?_of_idle (h : Idle s.candidate) :
    s.dropCandidate? = some { s with candidate := none } := by
  have hnone : s.candidate.any (·.required) = false := by
    cases hcandidate : s.candidate with
    | none => rfl
    | some c => simpa using h c hcandidate
  rw [dropCandidate?, hnone]
  rfl

/-! ### States between two parts -/

/-- The state of the cutting between two parts of a text: what is to be read, the tokens so far, the
last one first, and the columns of the open blocks. No candidate for a key is needed any more. A
`flow` is a collection in braces, and there is none within another. -/
structure Stands (s : Scanner) (flow : Bool) (indents : List Nat) (tokens : List Token)
    (rest : List Char) : Prop where
  rest_eq : s.rest = rest
  tokens_eq : s.tokens = tokens
  indents_eq : s.indents = indents
  idle : Idle s.candidate
  outer_idle : ∀ candidate ∈ s.outer, Idle candidate
  depth : s.outer.length = flow.toNat

variable {flow : Bool} {indents : List Nat} {tokens : List Token}

lemma inFlow_of_depth (h : s.outer.length = flow.toNat) : s.inFlow = flow := by
  cases flow with
  | false => simp [inFlow, List.length_eq_zero_iff.1 h]
  | true =>
    have hne : s.outer ≠ [] := List.ne_nil_of_length_pos (h ▸ Nat.one_pos)
    simpa [inFlow] using hne

namespace Stands

lemma inFlow_eq (h : s.Stands flow indents tokens rest) : s.inFlow = flow :=
  inFlow_of_depth h.depth

lemma emit (h : s.Stands flow indents tokens (c :: rest)) (token : Token) :
    ((s.skip 1).emit token).Stands flow indents (token :: tokens) rest where
  rest_eq := by simp [Scanner.emit, skip, h.rest_eq]
  tokens_eq := congrArg (token :: ·) h.tokens_eq
  indents_eq := h.indents_eq
  idle := h.idle
  outer_idle := h.outer_idle
  depth := h.depth

lemma allowKey (h : s.Stands flow indents tokens rest) (keyAllowed : Bool) :
    { s with keyAllowed }.Stands flow indents tokens rest :=
  ⟨h.rest_eq, h.tokens_eq, h.indents_eq, h.idle, h.outer_idle, h.depth⟩

lemma dropCandidate (h : s.Stands flow indents tokens rest) :
    { s with candidate := none }.Stands flow indents tokens rest :=
  ⟨h.rest_eq, h.tokens_eq, h.indents_eq, idle_none, h.outer_idle, h.depth⟩

end Stands

/-! ### Blocks -/

/-- Of the open blocks, some are closed before a token in this column and the others are kept. In a
flow nothing is closed. -/
structure Closes (flow : Bool) (column : Nat) (closed kept : List Nat) : Prop where
  closed_gt : ∀ i ∈ closed, flow = false ∧ column < i
  kept_le : flow = false → ∀ i ∈ kept.head?, i ≤ column

/-- The open blocks and the tokens when a block may have been opened in this column. -/
inductive Opens (token : Token) (column : Nat) :
    Bool → List Nat → List Token → List Nat → List Token → Prop
  | flow (indents : List Nat) (tokens : List Token) :
      Opens token column true indents tokens indents tokens
  | same (indents : List Nat) (tokens : List Token) :
      Opens token column false (column :: indents) tokens (column :: indents) tokens
  | new {indents : List Nat} (h : ∀ i ∈ indents.head?, i < column) (tokens : List Token) :
      Opens token column false indents tokens (column :: indents) (token :: tokens)

variable {column : Nat} {closed kept indents' : List Nat} {tokens' : List Token}

lemma Opens.kept_le (h : Opens token column flow indents tokens indents' tokens') :
    flow = false → ∀ i ∈ indents.head?, i ≤ column := by
  cases h with
  | flow _ _ => exact nofun
  | same _ _ => simp
  | new hlt _ => exact fun _ i hi => (hlt i hi).le

lemma Opens.opened_le (h : Opens token column flow indents tokens indents' tokens') :
    flow = false → ∀ i ∈ indents'.head?, i ≤ column := by
  cases h with
  | flow _ _ => exact nofun
  | same _ _ => simp
  | new _ _ => simp

lemma insert_eq {later before : List Token} (h : s.tokens = later ++ before) (token : Token) :
    s.insert before.length token = { s with tokens := later ++ token :: before } := by
  simp [insert, h]

lemma openBlock_eq {later before before' : List Token} (htokens : s.tokens = later ++ before)
    (h : Opens token column s.inFlow s.indents before indents' before') :
    s.openBlock column before.length token =
      { s with indents := indents', tokens := later ++ before' } := by
  generalize hflow : s.inFlow = flow at h
  generalize hindents : s.indents = indents at h
  unfold openBlock
  rw [hflow, hindents]
  cases h with
  | flow _ _ =>
    rw [← htokens, ← hindents]
    rfl
  | same _ _ =>
    rw [List.head?_cons, Option.any_some, decide_eq_true (Nat.le_refl column), ← htokens,
      ← hindents]
    rfl
  | new hlt _ =>
    have hnone : indents.head?.any (column ≤ ·) = false := by
      cases indents with
      | nil => rfl
      | cons i _ => simpa using hlt i rfl
    rw [hnone, insert_eq htokens]
    rfl

lemma closeBlocks_of_inFlow (h : s.inFlow = true) (keep : Nat → Bool) : s.closeBlocks keep = s := by
  rw [closeBlocks, h]
  rfl

lemma closeBlocks_eq {keep : Nat → Bool} (hflow : s.inFlow = false)
    (hindents : s.indents = closed ++ kept) (hclosed : ∀ i ∈ closed, keep i = false)
    (hkept : ∀ i ∈ kept.head?, keep i = true) :
    s.closeBlocks keep = { s with
      indents := kept
      tokens := closed.map (fun _ => Token.blockEnd) ++ s.tokens } := by
  have hdrop : ∀ i ∈ closed, (!keep i) = true := fun i hi => by simpa using hclosed i hi
  have hkeep : kept.takeWhile (!keep ·) = [] ∧ kept.dropWhile (!keep ·) = kept := by
    cases kept with
    | nil => exact ⟨rfl, rfl⟩
    | cons i kept => simp [hkept i rfl]
  rw [closeBlocks, hflow, hindents, List.takeWhile_append_of_pos hdrop,
    List.dropWhile_append_of_pos hdrop, hkeep.1, hkeep.2, List.append_nil]
  rfl

lemma closeBlocks_of_kept {keep : Nat → Bool}
    (h : s.inFlow = false → ∀ i ∈ s.indents.head?, keep i = true) : s.closeBlocks keep = s := by
  cases hflow : s.inFlow with
  | true => exact closeBlocks_of_inFlow hflow keep
  | false =>
    have hnone : s.indents = [] ++ s.indents := rfl
    exact closeBlocks_eq hflow hnone (List.forall_mem_nil _) (h hflow)

lemma ready?_eq {candidate : Option Candidate} {outer : List (Option Candidate)}
    (hrest : s.rest = gap ++ c :: cs) (hgap : IsGap gap) (hc : Solid c)
    (hcandidate : fresh? (s.place.afterAll gap) s.candidate = some candidate)
    (houter : s.outer.mapM (fresh? (s.place.afterAll gap)) = some outer) :
    s.ready? = some ({ s with
      rest := c :: cs
      place := s.place.afterAll gap
      keyAllowed := s.keyAllowed || (!s.inFlow && gap.any isBreak)
      candidate, outer }.closeBlocks (· ≤ (s.place.afterAll gap).column)) := by
  have hsolid : ∀ d ∈ (c :: cs).head?, Solid d := by simpa using hc
  rw [ready?, hrest, toToken_gap hgap hsolid]
  simp [dropStale?, hcandidate, houter]

namespace Stands

lemma closeBlocks (h : s.Stands flow (closed ++ kept) tokens rest)
    (hcloses : Closes flow column closed kept) :
    (s.closeBlocks (· ≤ column)).Stands flow kept
      (closed.map (fun _ => Token.blockEnd) ++ tokens) rest ∧
    (s.closeBlocks (· ≤ column)).place = s.place ∧
    (s.closeBlocks (· ≤ column)).keyAllowed = s.keyAllowed := by
  cases flow with
  | true =>
    have hnil : closed = [] := by
      rw [List.eq_nil_iff_forall_not_mem]
      exact fun i hi => by cases (hcloses.closed_gt i hi).1
    subst hnil
    rw [closeBlocks_of_inFlow h.inFlow_eq]
    exact ⟨h, rfl, rfl⟩
  | false =>
    rw [closeBlocks_eq h.inFlow_eq h.indents_eq
      (fun i hi => decide_eq_false (Nat.not_le.2 (hcloses.closed_gt i hi).2))
      (fun i hi => decide_eq_true (hcloses.kept_le rfl i hi))]
    exact ⟨⟨h.rest_eq, congrArg _ h.tokens_eq, rfl, h.idle, h.outer_idle, h.depth⟩, rfl, rfl⟩

/-- The state before the next token, when the gap before it is left behind. -/
lemma ready (h : s.Stands flow (closed ++ kept) tokens (gap ++ c :: cs)) (hgap : IsGap gap)
    (hc : Solid c) (hcloses : Closes flow (s.place.afterAll gap).column closed kept) :
    ∃ r, s.ready? = some r ∧
      r.Stands flow kept (closed.map (fun _ => Token.blockEnd) ++ tokens) (c :: cs) ∧
      r.place = s.place.afterAll gap ∧
      r.keyAllowed = (s.keyAllowed || (!flow && gap.any isBreak)) := by
  obtain ⟨candidate, hcandidate, hidle⟩ := fresh?_of_idle h.idle (s.place.afterAll gap)
  obtain ⟨outer, houter, houterIdle, hlength⟩ :=
    mapM_fresh?_of_idle h.outer_idle (s.place.afterAll gap)
  have hpassed : Stands { s with
      rest := c :: cs
      place := s.place.afterAll gap
      keyAllowed := s.keyAllowed || (!s.inFlow && gap.any isBreak)
      candidate, outer } flow (closed ++ kept) tokens (c :: cs) :=
    ⟨rfl, h.tokens_eq, h.indents_eq, hidle, houterIdle, hlength.trans h.depth⟩
  obtain ⟨hclosed, hplace, hallowed⟩ := hpassed.closeBlocks hcloses
  refine ⟨_, ready?_eq h.rest_eq hgap hc hcandidate houter, hclosed, hplace, ?_⟩
  rw [hallowed, h.inFlow_eq]

end Stands

/-! ### Which token comes next -/

lemma next?_item (cs : List Char) : s.next? '-' (' ' :: cs) = s.item? := by
  have hmark : startsWithMark '-' ('-' :: ' ' :: cs) = false := by
    cases cs <;> simp [startsWithMark]
  simp [next?, hmark, startsWithMark_of_ne, atGap, isGap, isSpace]

lemma next?_mapOpen (cs : List Char) : s.next? '\x7b' cs = s.openFlow? .mapOpen := by
  simp [next?, startsWithMark_of_ne]

lemma next?_mapClose (cs : List Char) : s.next? '\x7d' cs = s.closeFlow? .mapClose := by
  simp [next?, startsWithMark_of_ne]

lemma next?_separator (cs : List Char) : s.next? ',' cs = s.separator? := by
  simp [next?, startsWithMark_of_ne]

lemma next?_value (h : atGap cs = true) : s.next? ':' cs = s.value? := by
  simp [next?, startsWithMark_of_ne, h]

lemma next?_quoted (cs : List Char) : s.next? '"' cs = s.quoted? true := by
  simp [next?, startsWithMark_of_ne]

lemma next?_plain (hc : c.isAlphanum = true) (cs : List Char) : s.next? c cs = s.plain? := by
  have hne : ∀ d : Char, d.isAlphanum = false → c ≠ d := fun _ => ne_of_isAlphanum hc
  have hstarts : startsPlain s.inFlow c cs = true := by
    have hmarks : "-?:,[]\x7b\x7d#&*!|>'\"%@\x60".toList.all (!·.isAlphanum) = true := by decide
    have hnot : c ∉ "-?:,[]\x7b\x7d#&*!|>'\"%@\x60".toList := fun hmem => by
      simpa [hc] using List.all_eq_true.1 hmarks c hmem
    simp only [startsPlain, hne '-' rfl, hne '?' rfl, hne ':' rfl, if_false,
      (solid_of_isAlphanum hc).not_gap]
    simpa using hnot
  simp [next?, startsWithMark_of_ne (hne _ _), hne _ _, hstarts]

lemma plain?_eq {scanned : Scanned} (hmark : s.markCandidate? = some r)
    (hread : Yaml.plain? r.inFlow ((r.indents.head?.map (· + 1)).getD 0) r.place r.rest =
      some scanned) :
    s.plain? = some (r.takeScanned scanned true) := by
  rw [plain?, hmark]
  simp [hread]

/-! ### Keys -/

/-- A candidate on the same line is in reach for 1024 characters. -/
lemma fresh?_afterAll {candidate : Candidate} {word : List Char}
    (hword : ∀ c ∈ word, isBreak c = false) (hshort : word.length ≤ 1024) :
    fresh? (candidate.place.afterAll word) (some candidate) = some (some candidate) := by
  rw [Place.afterAll_of_not_break _ hword, fresh?]
  simp [hshort]

/-- Behind a colon it is known that a key was read, and where a block begins with it. -/
lemma value?_eq {candidate : Candidate} {before before' : List Token}
    (hcandidate : s.candidate = some candidate) (hcount : candidate.tokens = before.length)
    (htokens : s.tokens = token :: before)
    (hopens : Opens .blockMap candidate.place.column s.inFlow s.indents before indents' before') :
    s.value? = some (({ s with
      indents := indents'
      tokens := token :: .key :: before'
      candidate := none
      keyAllowed := false }.skip 1).emit .value) := by
  have hinsert := @insert_eq s [token] before htokens .key
  have hopen := @openBlock_eq { s with tokens := [token, .key] ++ before } .blockMap
    candidate.place.column indents' [token, .key] before before' rfl hopens
  rw [value?, hcandidate]
  dsimp only
  rw [hcount, hinsert]
  exact congrArg (fun s : Scanner =>
    some (({ s with candidate := none, keyAllowed := false }.skip 1).emit .value)) hopen

/-- The state behind a word that may be a key, which began in this column. -/
structure MayBeKey (s : Scanner) (flow : Bool) (indents : List Nat) (tokens : List Token)
    (column : Nat) (word rest : List Char) : Prop where
  rest_eq : s.rest = rest
  tokens_eq : s.tokens = .scalar (String.ofList word) true :: tokens
  indents_eq : s.indents = indents
  candidate : ∃ candidate, s.candidate = some candidate ∧ candidate.tokens = tokens.length ∧
    candidate.place.column = column ∧ s.place = candidate.place.afterAll word
  outer_idle : ∀ candidate ∈ s.outer, Idle candidate
  depth : s.outer.length = flow.toNat

lemma Stands.word {word : List Char} (h : s.Stands flow indents tokens (gap ++ (word ++ rest)))
    (hgap : IsGap gap) (hword : IsWord word)
    (hkept : flow = false → ∀ i ∈ indents.head?, i ≤ (s.place.afterAll gap).column)
    (hallowed : (s.keyAllowed || (!flow && gap.any isBreak)) = true)
    (hstop : Stops flow rest) (hrest : ∀ c ∈ rest.head?, isGap c = false) :
    ∃ t, s.Leads t ∧
      t.MayBeKey flow indents tokens (s.place.afterAll gap).column word rest := by
  obtain ⟨c, tail, rfl⟩ := List.exists_cons_of_ne_nil hword.ne_nil
  have hc : c.isAlphanum = true := hword.alphanum c List.mem_cons_self
  have hnone : s.Stands flow ([] ++ indents) tokens (gap ++ c :: (tail ++ rest)) := h
  obtain ⟨r, hready, hr, hplace, hkey⟩ :=
    hnone.ready hgap (solid_of_isAlphanum hc) ⟨List.forall_mem_nil _, hkept⟩
  rw [hallowed] at hkey
  let candidate : Candidate :=
    ⟨r.place, r.tokens.length, !r.inFlow && r.indents.head? == some r.place.column⟩
  have hmark : r.markCandidate? = some { r with candidate := some candidate } := by
    simp [markCandidate?, hkey, dropCandidate?_of_idle hr.idle, candidate, inFlow]
  have hread (indent : Nat) : Yaml.plain? r.inFlow indent r.place r.rest =
      some ⟨c :: tail, r.place.afterAll (c :: tail), rest, false⟩ := by
    rw [hr.rest_eq, hr.inFlow_eq]
    exact plain?_word indent r.place hword hstop hrest
  have hplain := plain?_eq hmark (hread _)
  refine ⟨_, leads_of_next hready hr.rest_eq ((next?_plain hc _).trans hplain) ?_, ?_⟩
  · simp [takeScanned, h.rest_eq]
    omega
  · refine ⟨rfl, congrArg _ hr.tokens_eq, hr.indents_eq, ⟨candidate, rfl, ?_, ?_, rfl⟩,
      hr.outer_idle, hr.depth⟩
    · exact congrArg List.length hr.tokens_eq
    · exact congrArg Place.column hplace

lemma MayBeKey.colon {word : List Char}
    (h : s.MayBeKey flow indents tokens column word (':' :: follow))
    (hbreak : ∀ c ∈ word, isBreak c = false) (hshort : word.length ≤ 1024)
    (hfollow : atGap follow = true)
    (hopens : Opens .blockMap column flow indents tokens indents' tokens') :
    ∃ t, s.Leads t ∧
      t.Stands flow indents' (.value :: .scalar (String.ofList word) true :: .key :: tokens')
        follow ∧
      t.keyAllowed = false ∧ (flow = false → ∀ i ∈ indents'.head?, i ≤ t.place.column) := by
  obtain ⟨candidate, hcandidate, hcount, rfl, hplace⟩ := h.candidate
  have hfresh : fresh? s.place s.candidate = some (some candidate) := by
    rw [hcandidate, hplace]
    exact fresh?_afterAll hbreak hshort
  obtain ⟨outer, houter, houterIdle, hlength⟩ := mapM_fresh?_of_idle h.outer_idle s.place
  let r : Scanner := { s with
    rest := ':' :: follow
    keyAllowed := s.keyAllowed || (!s.inFlow && [].any isBreak)
    candidate := some candidate
    outer }
  have hflow : r.inFlow = flow := inFlow_of_depth (hlength.trans h.depth)
  have hle : candidate.place.column ≤ s.place.column := by
    rw [hplace, Place.afterAll_of_not_break _ hbreak]
    exact Nat.le_add_right _ _
  have hready : s.ready? = some r := by
    have hcolon : s.rest = [] ++ ':' :: follow := h.rest_eq
    refine (ready?_eq hcolon isGap_nil (by decide) hfresh houter).trans (congrArg some ?_)
    refine closeBlocks_of_kept fun hno i hi => decide_eq_true ?_
    exact (hopens.kept_le (hflow.symm.trans hno) i (h.indents_eq ▸ hi)).trans hle
  have hopens' :
      Opens .blockMap candidate.place.column r.inFlow r.indents tokens indents' tokens' := by
    rw [hflow, show r.indents = indents from h.indents_eq]
    exact hopens
  have hcandidate' : r.candidate = some candidate := rfl
  have hvalue := value?_eq hcandidate' hcount h.tokens_eq hopens'
  refine ⟨_, leads_of_next hready rfl ((next?_value hfollow).trans hvalue) ?_, ?_, rfl,
    fun hno i hi => ?_⟩
  · rw [h.rest_eq]
    exact Nat.lt_succ_self _
  · exact ⟨rfl, rfl, rfl, idle_none, houterIdle, hlength.trans h.depth⟩
  · exact ((hopens.opened_le hno i hi).trans hle).trans (Nat.le_succ _)

/-- A word with a colon behind it is read as a key; a block may begin with it. -/
lemma Stands.key {word : List Char}
    (h : s.Stands flow indents tokens (gap ++ (word ++ ':' :: follow))) (hgap : IsGap gap)
    (hword : IsWord word) (hshort : word.length ≤ 1024) (hfollow : atGap follow = true)
    (hallowed : (s.keyAllowed || (!flow && gap.any isBreak)) = true)
    (hopens : Opens .blockMap (s.place.afterAll gap).column flow indents tokens indents' tokens') :
    ∃ t, s.Leads t ∧
      t.Stands flow indents' (.value :: .scalar (String.ofList word) true :: .key :: tokens')
        follow ∧
      t.keyAllowed = false ∧ (flow = false → ∀ i ∈ indents'.head?, i ≤ t.place.column) := by
  have hcolon : ∀ c ∈ (':' :: follow).head?, isGap c = false := by
    simp [isGap, isSpace, isBreak]
  obtain ⟨r, hleads, hr⟩ :=
    h.word hgap hword hopens.kept_le hallowed (stops_colon hfollow) hcolon
  have hbreak : ∀ c ∈ word, isBreak c = false := fun c hc =>
    (solid_of_isAlphanum (hword.alphanum c hc)).not_break
  obtain ⟨t, hleads', ht⟩ := hr.colon hbreak hshort hfollow hopens
  exact ⟨t, hleads.trans hleads', ht⟩

/-! ### Scalars behind a colon -/

/-- The text of a scalar, what it says, and whether it is plain. -/
inductive Spells : List Char → String → Bool → Prop
  | word {word : List Char} (h : IsWord word) : Spells word (String.ofList word) true
  | char {c : Char} (hplain : IsOrdinary c) (hgap : isGap c = false) (hquote : c ≠ '"')
      (hescape : c ≠ '\\') : Spells ['"', c, '"'] (String.ofList [c]) false

lemma Spells.isOrdinary {text : List Char} {value : String} {plain : Bool}
    (h : Spells text value plain) : ∀ c ∈ text, IsOrdinary c := by
  cases h with
  | word h => exact h.isOrdinary
  | char hplain _ _ _ =>
    have hquote : IsOrdinary '"' := by decide
    simpa using ⟨hquote, hplain, hquote⟩

/-- A scalar ends before this text: in a flow at a mark, and else at the end of the text or at a
line that is not indented to the right of the innermost block. -/
inductive EndsBefore : Bool → List Nat → List Char → Prop
  | separator (indents : List Nat) (rest : List Char) : EndsBefore true indents (',' :: rest)
  | mapClose (indents : List Nat) (rest : List Char) : EndsBefore true indents ('\x7d' :: rest)
  | text (indents : List Nat) : EndsBefore false indents []
  | line {column : Nat} (indents : List Nat) {width : Nat} {rest : List Char}
      (hwidth : width ≤ column) (hrest : ∀ c ∈ rest.head?, Solid c) :
      EndsBefore false (column :: indents) (margin width ++ rest)

/-- Whether a scalar takes the margin behind it along makes no difference to what follows. -/
lemma run?_margin (hflow : s.inFlow = false) (hrest : ∀ c ∈ rest.head?, Solid c) (width : Nat)
    (p : Place) (fuel : Nat) :
    run? fuel { s with rest, place := p.afterAll (margin width), keyAllowed := true } =
      run? fuel { s with rest := margin width ++ rest, place := p, keyAllowed := false } := by
  cases fuel with
  | zero => rfl
  | succ fuel =>
    have htaken := toToken_gap isGap_nil hrest false true (p.afterAll (margin width))
    have hleft := toToken_gap (isGap_margin width) hrest false false p
    have hflow' : inFlow { s with rest, place := p.afterAll (margin width), keyAllowed := true } =
      false := hflow
    have hflow'' : inFlow { s with rest := margin width ++ rest, place := p, keyAllowed := false } =
      false := hflow
    rw [run?, run?, hflow', hflow'']
    dsimp only
    rw [hleft, show toToken false false true (p.afterAll (margin width)) rest = _ from htaken]
    rfl

lemma markCandidate?_of_not_keyAllowed (h : s.keyAllowed = false) : s.markCandidate? = some s := by
  rw [markCandidate?, h]
  rfl

namespace Stands

variable {text word : List Char} {value : String} {plain : Bool}

lemma plainValue (h : s.Stands flow indents tokens (word ++ follow)) (hkey : s.keyAllowed = false)
    (hword : IsWord word) (hends : EndsBefore flow indents follow) :
    ∃ t t', s.plain? = some t ∧ (∀ fuel, run? fuel t = run? fuel t') ∧
      t'.Stands flow indents (.scalar (String.ofList word) true :: tokens) follow := by
  have hmark := markCandidate?_of_not_keyAllowed hkey
  have hplain {scanned : Scanned} (hread : Yaml.plain? flow ((indents.head?.map (· + 1)).getD 0)
      s.place (word ++ follow) = some scanned) : s.plain? = some (s.takeScanned scanned true) := by
    refine plain?_eq hmark ?_
    rw [h.inFlow_eq, h.indents_eq, h.rest_eq]
    exact hread
  have htaken (keyAllowed : Bool) : Stands { s with
      rest := follow
      place := s.place.afterAll word
      keyAllowed
      tokens := .scalar (String.ofList word) true :: s.tokens }
      flow indents (.scalar (String.ofList word) true :: tokens) follow :=
    ⟨rfl, congrArg _ h.tokens_eq, h.indents_eq, h.idle, h.outer_idle, h.depth⟩
  cases hends with
  | separator indents rest =>
    have hread := plain?_word ((indents.head?.map (· + 1)).getD 0) s.place hword
      (@stops_separator rest) (by simp [isGap, isSpace, isBreak])
    exact ⟨_, _, hplain hread, fun _ => rfl, htaken false⟩
  | mapClose indents rest =>
    have hread := plain?_word ((indents.head?.map (· + 1)).getD 0) s.place hword
      (@stops_close rest) (by simp [isGap, isSpace, isBreak])
    exact ⟨_, _, hplain hread, fun _ => rfl, htaken false⟩
  | text indents =>
    have hread := plain?_word ((indents.head?.map (· + 1)).getD 0) s.place hword
      (@stops_nil false) (by simp)
    exact ⟨_, _, hplain hread, fun _ => rfl, htaken false⟩
  | @line column indents width rest hwidth hrest =>
    -- the margin goes with the scalar, but it might as well be left to the next token
    have hread := plain?_word_margin (column + 1) s.place hword (fun c hc => (hrest c hc).not_gap)
      (Nat.lt_succ_of_le hwidth)
    have hsame := @run?_margin { s with tokens := .scalar (String.ofList word) true :: s.tokens }
      rest h.inFlow_eq hrest width (s.place.afterAll word)
    exact ⟨_, _, hplain hread, hsame, htaken false⟩

/-- Behind a colon, a scalar is read as it is spelled. -/
lemma scalar (h : s.Stands flow indents tokens (' ' :: (text ++ follow)))
    (hkey : s.keyAllowed = false) (hkept : flow = false → ∀ i ∈ indents.head?, i ≤ s.place.column)
    (hspells : Spells text value plain) (hends : EndsBefore flow indents follow) :
    ∃ t, s.Leads t ∧ t.Stands flow indents (.scalar value plain :: tokens) follow := by
  have hcolumn : s.place.column ≤ (s.place.afterAll [' ']).column := Nat.le_succ _
  have hcloses : Closes flow (s.place.afterAll [' ']).column [] indents :=
    ⟨List.forall_mem_nil _, fun hno i hi => (hkept hno i hi).trans hcolumn⟩
  cases hspells with
  | @word word hword =>
    obtain ⟨c, tail, rfl⟩ := List.exists_cons_of_ne_nil hword.ne_nil
    have hc : c.isAlphanum = true := hword.alphanum c List.mem_cons_self
    have hblank : s.Stands flow ([] ++ indents) tokens ([' '] ++ c :: (tail ++ follow)) := h
    obtain ⟨r, hready, hr, -, hallowed⟩ :=
      hblank.ready isGap_blank (solid_of_isAlphanum hc) hcloses
    have hkey' : r.keyAllowed = false := by simp [hallowed, hkey, isBreak]
    obtain ⟨t, t', hplain, hsame, ht'⟩ := hr.plainValue hkey' hword hends
    refine ⟨t', leads_of_run? (fun fuel => ?_) ?_, ht'⟩
    · rw [run?_of_next hready hr.rest_eq ((next?_plain hc _).trans hplain), hsame]
    · simp [h.rest_eq, ht'.rest_eq]
      omega
  | @char c _ hgap hquote hescape =>
    have hblank : s.Stands flow ([] ++ indents) tokens ([' '] ++ '"' :: (c :: '"' :: follow)) := h
    obtain ⟨r, hready, hr, -, hallowed⟩ := hblank.ready isGap_blank (by decide) hcloses
    have hkey' : r.keyAllowed = false := by simp [hallowed, hkey, isBreak]
    have hquoted : r.quoted? true = some ((r.skip 1).takeScanned
        ⟨[c], (r.skip 1).place.afterAll [c, '"'], follow, false⟩ false) := by
      have hrest : (r.skip 1).rest = c :: '"' :: follow := by simp [skip, hr.rest_eq]
      have hread := quoted?_char hgap hquote hescape (r.skip 1).place follow
      rw [quoted?, markCandidate?_of_not_keyAllowed hkey']
      simp [hrest, hread]
    refine ⟨_, leads_of_next hready hr.rest_eq ((next?_quoted _).trans hquoted) ?_, ?_⟩
    · simp [takeScanned, h.rest_eq]
      omega
    · exact ⟨rfl, congrArg _ hr.tokens_eq, hr.indents_eq, hr.idle, hr.outer_idle, hr.depth⟩

/-! ### Marks -/

/-- The dash of an item, on a line of its own after a margin; a block list may begin with it. -/
lemma item {width : Nat}
    (h : s.Stands false (closed ++ kept) tokens (margin width ++ '-' :: ' ' :: rest))
    (hclosed : ∀ i ∈ closed, width < i)
    (hopens : Opens .blockList width false kept (closed.map (fun _ => .blockEnd) ++ tokens) indents'
      tokens') :
    ∃ t, s.Leads t ∧ t.Stands false indents' (.item :: tokens') (' ' :: rest) ∧
      t.keyAllowed = true ∧ t.place.column = width + 1 := by
  have hcolumn := column_afterAll_margin s.place width
  have hcloses : Closes false (s.place.afterAll (margin width)).column closed kept := by
    rw [hcolumn]
    exact ⟨fun i hi => ⟨rfl, hclosed i hi⟩, hopens.kept_le⟩
  obtain ⟨r, hready, hr, hplace, hallowed⟩ := h.ready (isGap_margin width) (by decide) hcloses
  have hkey : r.keyAllowed = true := by simp [hallowed, any_isBreak_margin]
  have hwidth : r.place.column = width := hplace ▸ hcolumn
  have hopened : r.openBlock r.place.column r.tokens.length .blockList =
      { r with indents := indents', tokens := tokens' } := by
    rw [← hwidth, ← hr.tokens_eq, ← hr.indents_eq, ← hr.inFlow_eq] at hopens
    exact @openBlock_eq r .blockList r.place.column indents' [] r.tokens tokens' rfl hopens
  have hitem : r.item? = some (({ r with
      indents := indents', tokens := tokens', candidate := none, keyAllowed := true }.skip 1).emit
      .item) := by
    have hidle : Idle { r with indents := indents', tokens := tokens' }.candidate := hr.idle
    rw [item?, openHere?, hr.inFlow_eq, hkey, hopened]
    simp [dropCandidate?_of_idle hidle]
  have hopenedStands : Stands { r with
      indents := indents', tokens := tokens', candidate := none, keyAllowed := true }
      false indents' tokens' ('-' :: ' ' :: rest) :=
    ⟨hr.rest_eq, rfl, rfl, idle_none, hr.outer_idle, hr.depth⟩
  have ht := hopenedStands.emit .item
  refine ⟨_, leads_of_next hready hr.rest_eq ((next?_item _).trans hitem) ?_, ht, rfl, ?_⟩
  · simp [h.rest_eq, ht.rest_eq, margin]
    omega
  · simp [Scanner.emit, skip, hr.rest_eq, Place.after, isBreak, hwidth]

lemma mapOpen (h : s.Stands false indents tokens (' ' :: '\x7b' :: rest))
    (hallowed : s.keyAllowed = true) (hkept : ∀ i ∈ indents.head?, i ≤ s.place.column) :
    ∃ t, s.Leads t ∧ t.Stands true indents (.mapOpen :: tokens) rest ∧ t.keyAllowed = true := by
  have hblank : s.Stands false ([] ++ indents) tokens ([' '] ++ '\x7b' :: rest) := h
  have hcloses : Closes false (s.place.afterAll [' ']).column [] indents :=
    ⟨List.forall_mem_nil _, fun _ i hi => (hkept i hi).trans (Nat.le_succ _)⟩
  obtain ⟨r, hready, hr, hplace, hkey⟩ := hblank.ready isGap_blank (by decide) hcloses
  rw [hallowed, Bool.true_or] at hkey
  -- the brace stands to the right of the innermost block, where a key is not the only choice
  have hrequired : (r.indents.head? == some r.place.column) = false := by
    rw [beq_eq_false_iff_ne, hr.indents_eq, hplace]
    exact fun hhead => Nat.not_succ_le_self _ (hkept _ hhead)
  let candidate : Candidate := ⟨r.place, r.tokens.length, false⟩
  have hopen : r.openFlow? .mapOpen = some (({ r with
      outer := some candidate :: r.outer, candidate := none, keyAllowed := true }.skip 1).emit
      .mapOpen) := by
    simp [openFlow?, markCandidate?, hkey, hrequired, dropCandidate?_of_idle hr.idle, candidate]
  have hopened : Stands { r with
      outer := some candidate :: r.outer, candidate := none, keyAllowed := true }
      true indents tokens ('\x7b' :: rest) := by
    refine ⟨hr.rest_eq, hr.tokens_eq, hr.indents_eq, idle_none, ?_, ?_⟩
    · refine List.forall_mem_cons.2 ⟨?_, hr.outer_idle⟩
      rintro _ ⟨⟩
      rfl
    · exact congrArg (· + 1) hr.depth
  have ht := hopened.emit .mapOpen
  refine ⟨_, leads_of_next hready hr.rest_eq ((next?_mapOpen _).trans hopen) ?_, ht, rfl⟩
  simp only [h.rest_eq, ht.rest_eq, List.length_cons]
  omega

lemma mapClose (h : s.Stands true indents tokens ('\x7d' :: rest)) :
    ∃ t, s.Leads t ∧ t.Stands false indents (.mapClose :: tokens) rest := by
  have hnone : s.Stands true ([] ++ indents) tokens ([] ++ '\x7d' :: rest) := h
  obtain ⟨r, hready, hr, -, -⟩ :=
    hnone.ready isGap_nil (by decide) ⟨List.forall_mem_nil _, nofun⟩
  obtain ⟨candidate, houter⟩ : ∃ candidate, r.outer = [candidate] :=
    List.length_eq_one_iff.1 hr.depth
  have hclose : r.closeFlow? .mapClose =
      some (({ r with candidate, outer := [], keyAllowed := false }.skip 1).emit .mapClose) := by
    simp [closeFlow?, dropCandidate?_of_idle hr.idle, houter]
  have hclosed : Stands { r with candidate, outer := [], keyAllowed := false } false indents tokens
      ('\x7d' :: rest) := by
    refine ⟨hr.rest_eq, hr.tokens_eq, hr.indents_eq, ?_, List.forall_mem_nil _, rfl⟩
    exact hr.outer_idle candidate (houter ▸ List.mem_singleton_self candidate)
  have ht := hclosed.emit .mapClose
  refine ⟨_, leads_of_next hready hr.rest_eq ((next?_mapClose _).trans hclose) ?_, ht⟩
  simp [h.rest_eq, ht.rest_eq]

lemma separator (h : s.Stands true indents tokens (',' :: rest)) :
    ∃ t, s.Leads t ∧ t.Stands true indents (.separator :: tokens) rest ∧ t.keyAllowed = true := by
  have hnone : s.Stands true ([] ++ indents) tokens ([] ++ ',' :: rest) := h
  obtain ⟨r, hready, hr, -, -⟩ :=
    hnone.ready isGap_nil (by decide) ⟨List.forall_mem_nil _, nofun⟩
  have hseparator : r.separator? =
      some (({ r with candidate := none, keyAllowed := true }.skip 1).emit .separator) := by
    rw [separator?, dropCandidate?_of_idle hr.idle]
    rfl
  have ht := (hr.dropCandidate.allowKey true).emit .separator
  refine ⟨_, leads_of_next hready hr.rest_eq ((next?_separator _).trans hseparator) ?_, ht, rfl⟩
  simp [h.rest_eq, ht.rest_eq]

/-- At the end of the text all blocks are closed. -/
lemma finish (h : s.Stands false indents tokens gap) (hgap : IsGap gap) (fuel : Nat) :
    ∃ t, run? (fuel + 1) s = some t ∧ t.tokens = indents.map (fun _ => .blockEnd) ++ tokens := by
  have hpassed := @toToken_gap gap [] hgap nofun s.inFlow s.keyAllowed s.place
  rw [List.append_nil] at hpassed
  obtain ⟨candidate, hcandidate, hidle⟩ := fresh?_of_idle h.idle (s.place.afterAll gap)
  have houter : s.outer = [] := List.length_eq_zero_iff.1 h.depth
  let r : Scanner := { s with
    rest := []
    place := s.place.afterAll gap
    keyAllowed := s.keyAllowed || (!s.inFlow && gap.any isBreak)
    candidate, outer := [] }
  have hclosed : r.closeBlocks (fun _ => false) = { r with
      indents := [], tokens := indents.map (fun _ => .blockEnd) ++ r.tokens } :=
    closeBlocks_eq rfl (h.indents_eq.trans (List.append_nil _).symm) (fun _ _ => rfl) nofun
  have hrun : run? (fuel + 1) s = r.finish? := by
    rw [run?, h.rest_eq, hpassed]
    simp [dropStale?, hcandidate, houter, r]
  have hidle' : Idle { r with
      indents := []
      tokens := indents.map (fun _ => Token.blockEnd) ++ r.tokens }.candidate := hidle
  rw [hrun, finish?, hclosed, dropCandidate?_of_idle hidle']
  exact ⟨_, rfl, congrArg _ h.tokens_eq⟩

end Stands

end Scanner

end Yaml

end SlotMachine
