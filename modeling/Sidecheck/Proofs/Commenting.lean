import Mathlib.Data.List.Infix
import Sidecheck.Config.File
import Sidecheck.Proofs.Compact
/-!
# Comments between tokens

Where comments are put into a text outside its strings, taking comments out gives the text back,
with the line ends of the line comments: `removeFrom_weave`. The text may have slashes in its
strings only, for a slash elsewhere could begin a comment together with what is put behind it.
Between tokens a line end is a blank, and the machine that reads tokens is as it was behind it:
`Token.read?_weave`. So a configuration means what it means without its comments:
`comments_transparent`.
-/

namespace Sidecheck

/-! ## Texts with comments -/

namespace Comments

/-- A comment. -/
inductive Comment
  /-- Up to the first `*/`. -/
  | block (text : List Char) (closes : ¬ ['*', '/'] <:+: text)
  /-- Up to the end of the line. -/
  | line (text : List Char) (closes : '\n' ∉ text)

/-- A comment as it is written. -/
def Comment.write : Comment → List Char
  | .block text _ => '/' :: '*' :: text ++ ['*', '/']
  | .line text _ => '/' :: '/' :: text ++ ['\n']

/-- What is left where a comment was. -/
def Comment.left : Comment → List Char
  | .block .. => []
  | .line .. => ['\n']

/-- How the next character stands to the strings of a text. -/
inductive Quoting
  | outside
  | inside
  /-- Inside, behind a backslash. -/
  | escaped
deriving DecidableEq, Repr

/-- One character further. -/
def Quoting.after : Quoting → Char → Quoting
  | .outside, c => if c = '"' then .inside else .outside
  | .inside, c => if c = '"' then .outside else if c = '\\' then .escaped else .inside
  | .escaped, _ => .inside

/-- How what follows a text stands to its strings. -/
def quoting (before : List Char) : Quoting := before.foldl Quoting.after .outside

/-- A text with others put in, each in front of the character of its number or at the end. -/
def weave (gaps : Nat → List Char) : List Char → List Char
  | [] => gaps 0
  | c :: rest => gaps 0 ++ c :: weave (fun i => gaps (i + 1)) rest

theorem weave_nil (t : List Char) : weave (fun _ => []) t = t := by
  induction t with
  | nil => rfl
  | cons c t ih => exact congrArg (c :: ·) ih

/-! ## Taking comments out -/

theorem removeFrom_line {text : List Char} (h : '\n' ∉ text) (rest : List Char) :
    removeFrom .line (text ++ '\n' :: rest) = '\n' :: removeFrom .code rest := by
  induction text with
  | nil => simp [removeFrom]
  | cons c text ih =>
    rw [List.mem_cons, not_or] at h
    rw [List.cons_append, removeFrom, if_neg (Ne.symm h.1), ih h.2]

theorem removeFrom_block_cons {c : Char} {rest : List Char}
    (h : ¬ (c = '*' ∧ rest.head? = some '/')) :
    removeFrom .block (c :: rest) = removeFrom .block rest := by
  rw [removeFrom]
  rintro more rfl rfl
  exact h ⟨rfl, rfl⟩

/-- The first `*/` behind a block's text is the one that closes it. -/
theorem removeFrom_block {text : List Char} (h : ¬ ['*', '/'] <:+: text) (rest : List Char) :
    removeFrom .block (text ++ '*' :: '/' :: rest) = removeFrom .code rest := by
  induction text with
  | nil => rw [List.nil_append, removeFrom]
  | cons c text ih =>
    have hrest : ¬ ['*', '/'] <:+: text := fun hwithin =>
      h (hwithin.trans (List.suffix_cons c text).isInfix)
    rw [List.cons_append, removeFrom_block_cons, ih hrest]
    rintro ⟨rfl, hslash⟩
    cases text with
    | nil => simp at hslash
    | cons d text =>
      obtain rfl : d = '/' := by simpa using hslash
      exact h ⟨[], text, rfl⟩

theorem removeFrom_comments (comments : List Comment) (rest : List Char) :
    removeFrom .code (comments.flatMap Comment.write ++ rest) =
      comments.flatMap Comment.left ++ removeFrom .code rest := by
  induction comments with
  | nil => rfl
  | cons comment comments ih =>
    rw [List.flatMap_cons, List.flatMap_cons, List.append_assoc, List.append_assoc, ← ih]
    cases comment with
    | block text closes =>
      have hclosed := removeFrom_block closes (comments.flatMap Comment.write ++ rest)
      simpa [Comment.write, Comment.left, removeFrom] using hclosed
    | line text closes =>
      have hclosed := removeFrom_line closes (comments.flatMap Comment.write ++ rest)
      simpa [Comment.write, Comment.left, removeFrom] using hclosed

/-- Where a text without comments goes on. -/
def Quoting.place : Quoting → Place
  | .outside => .code
  | .inside => .string
  | .escaped => .escape

/-- The character and the one behind it begin a comment. -/
def Opens (c : Char) (rest : List Char) : Prop :=
  c = '/' ∧ (rest.head? = some '/' ∨ rest.head? = some '*')

theorem not_opens_iff {c : Char} {rest : List Char} :
    ¬ Opens c rest ↔ (∀ behind, c = '/' → rest = '/' :: behind → False) ∧
      ∀ behind, c = '/' → rest = '*' :: behind → False := by
  cases rest <;> grind [Opens]

theorem Quoting.place_after_outside (c : Char) :
    (Quoting.outside.after c).place = if c = '"' then .string else .code := by
  rw [after]
  split <;> rfl

theorem removeFrom_cons {q : Quoting} {c : Char} {rest : List Char}
    (h : q = .outside → ¬ Opens c rest) :
    removeFrom q.place (c :: rest) = c :: removeFrom (q.after c).place rest := by
  cases q with
  | outside =>
    obtain ⟨hline, hblock⟩ := not_opens_iff.1 (h rfl)
    rw [Quoting.place_after_outside, Quoting.place, removeFrom]
    · exact hline
    · exact hblock
  | inside =>
    rw [Quoting.place, removeFrom, Quoting.after]
    split_ifs <;> rfl
  | escaped => rfl

theorem removeFrom_gap {q : Quoting} {comments : List Comment} (h : comments ≠ [] → q = .outside)
    (rest : List Char) :
    removeFrom q.place (comments.flatMap Comment.write ++ rest) =
      comments.flatMap Comment.left ++ removeFrom q.place rest := by
  cases comments with
  | nil => rfl
  | cons comment comments =>
    obtain rfl : q = .outside := h (List.cons_ne_nil comment comments)
    exact removeFrom_comments (comment :: comments) rest

/-- Taking comments out of a text that goes on with comments outside its strings. -/
theorem removeFrom_weave {t : List Char} {comments : Nat → List Comment} {q : Quoting}
    (hslashes : ∀ i, t[i]? = some '/' → (t.take i).foldl Quoting.after q ≠ .outside)
    (houtside : ∀ i, comments i ≠ [] → (t.take i).foldl Quoting.after q = .outside) :
    removeFrom q.place (weave (fun i => (comments i).flatMap Comment.write) t) =
      weave (fun i => (comments i).flatMap Comment.left) t := by
  induction t generalizing comments q with
  | nil =>
    have hgap : comments 0 ≠ [] → q = .outside := houtside 0
    have hend := removeFrom_gap hgap []
    have hnil : removeFrom q.place [] = [] := by cases q <;> rfl
    rwa [hnil, List.append_nil, List.append_nil] at hend
  | cons c t ih =>
    have hgap : comments 0 ≠ [] → q = .outside := houtside 0
    have hfirst : c = '/' → q ≠ .outside := fun hc => hslashes 0 (by rw [hc]; rfl)
    have hrest := ih (q := q.after c) (fun i => hslashes (i + 1)) fun i => houtside (i + 1)
    rw [weave, weave, removeFrom_gap hgap,
      removeFrom_cons fun hq hopens => hfirst hopens.1 hq, hrest]

end Comments

/-! ## Tokens of a text with more line ends -/

namespace Json.Token

/-- The character goes on with the token that is open. -/
def State.continues : State → Char → Bool
  | .between, _ => false
  | .word rest _, c => rest.head? = some c
  | .number stage digits, c => (pushDigit? digits stage c).isSome
  | .text .., _ => true

/-- No token of the text goes on across the position. -/
def IsBetween (t : List Char) (position : Nat) : Prop :=
  ∀ s ts c, scanFrom? .between (t.take position) = some (s, ts) → t[position]? = some c →
    s.continues c = false

/-- A word that has begun is not finished, and what is left of it holds no line end. -/
def State.isUnbroken : State → Bool
  | .word rest _ => !rest.isEmpty && !rest.contains '\n'
  | _ => true

theorem isUnbroken_of_begin? {c : Char} {s : State} {ts : List Token}
    (h : begin? c = some (s, ts)) : s.isUnbroken = true := by
  unfold begin? at h
  split at h
  case h_16 =>
    obtain ⟨_, _, heq⟩ := Option.map_eq_some_iff.1 h
    cases heq
    rfl
  all_goals
    cases h
    decide

theorem isUnbroken_of_textStep? {inside : Inside} {w : Written} {c : Char} {s : State}
    {ts : List Token} (h : textStep? inside w c = some (s, ts)) : s.isUnbroken = true := by
  unfold textStep? at h
  split at h
  · split_ifs at h <;> cases h <;> rfl
  · split_ifs at h
    · cases h
      rfl
    · obtain ⟨_, _, heq⟩ := Option.map_eq_some_iff.1 h
      cases heq
      rfl
  · obtain ⟨d, _, heq⟩ := Option.map_eq_some_iff.1 h
    split at heq <;> cases heq <;> rfl

theorem isUnbroken_of_step? {c : Char} {s s' : State} {ts : List Token}
    (hs : s.isUnbroken = true) (h : step? s c = some (s', ts)) : s'.isUnbroken = true := by
  cases s with
  | between => exact isUnbroken_of_begin? h
  | word rest token =>
    cases rest with
    | nil => cases hs
    | cons d rest =>
      rw [step?] at h
      split_ifs at h with _ hrest
      · cases h
        rfl
      · cases h
        have hfeed : '\n' ∉ d :: rest := by simpa [State.isUnbroken] using hs
        rw [List.mem_cons, not_or] at hfeed
        simp [State.isUnbroken, hrest, hfeed.2]
  | number stage digits =>
    rw [step?] at h
    split at h
    · cases h
      rfl
    · simp only [Option.bind_eq_bind, Option.bind_eq_some_iff] at h
      obtain ⟨n, -, ⟨next, us⟩, hbegin, heq⟩ := h
      cases heq
      exact isUnbroken_of_begin? hbegin
  | text inside w => exact isUnbroken_of_textStep? h

theorem read?_newlines_between {feeds : List Char} (hfeeds : ∀ c ∈ feeds, c = '\n')
    (cs : List Char) : read? .between (feeds ++ cs) = read? .between cs :=
  read?_blanks (fun c hc => by simp [hfeeds c hc]) cs

/-- A number ends in front of a character that does not belong to it. -/
theorem read?_number_of_ends {stage : Stage} {digits : Digits} {cs : List Char}
    (h : ∀ c ∈ cs.head?, (State.number stage digits).continues c = false) :
    read? (.number stage digits) cs =
      (finishNumber? digits stage).bind fun n => (read? .between cs).map ([.number n] ++ ·) := by
  cases cs with
  | nil => cases hn : finishNumber? digits stage <;> simp [read?, scanFrom?, finish?, hn]
  | cons c cs =>
    have hpush : pushDigit? digits stage c = none := by
      simpa [State.continues] using h c rfl
    have hstep : step? (.number stage digits) c = (finishNumber? digits stage).bind fun n =>
        (begin? c).map fun next => (next.1, .number n :: next.2) := by
      simp only [step?, hpush, Option.bind_eq_bind, Option.map_eq_bind]
      rfl
    cases hn : finishNumber? digits stage with
    | none =>
      rw [hn, Option.bind_none] at hstep
      simp [read?, scanFrom?, hstep]
    | some n =>
      rw [hn, Option.bind_some] at hstep
      cases hbegin : begin? c with
      | none =>
        have hbetween : step? .between c = none := hbegin
        simp [read?, scanFrom?, hstep, hbegin, hbetween]
      | some next =>
        have hbetween : step? .between c = some next := hbegin
        rw [hbegin] at hstep
        rw [read?_of_step? hstep, read?_of_step? hbetween]
        simp [Function.comp_def]

theorem not_continues_newline {stage : Stage} {digits : Digits} :
    (State.number stage digits).continues '\n' = false := by
  cases stage <;> rfl

theorem read?_eq_none {s : State} {cs : List Char} (hend : finish? s = none)
    (hstep : ∀ c ∈ cs.head?, step? s c = none) : read? s cs = none := by
  cases cs with
  | nil => simp [read?, scanFrom?, hend]
  | cons c cs => simp [read?, scanFrom?, hstep c rfl]

/-- Line ends in front of a character that does not go on with the open token change nothing, even
where the text is no JSON. -/
theorem read?_newlines {s : State} {feeds cs : List Char} (hs : s.isUnbroken = true)
    (hfeeds : ∀ c ∈ feeds, c = '\n') (hcs : ∀ c ∈ cs.head?, s.continues c = false) :
    read? s (feeds ++ cs) = read? s cs := by
  cases feeds with
  | nil => rfl
  | cons c feeds =>
    have hbetween := read?_newlines_between hfeeds cs
    rw [List.forall_mem_cons] at hfeeds
    obtain ⟨rfl, hfeeds⟩ := hfeeds
    cases s with
    | between => exact hbetween
    | word rest token =>
      cases rest with
      | nil => cases hs
      | cons d rest =>
        -- The word is broken off, by the line end or by what follows.
        have hbroken (c : Char) (hc : c ≠ d) : step? (.word (d :: rest) token) c = none := if_pos hc
        have hfeed : '\n' ≠ d := by
          rintro rfl
          simp [State.isUnbroken] at hs
        rw [read?_eq_none rfl, read?_eq_none rfl]
        · intro c hc
          refine hbroken c fun hcd => ?_
          simpa [State.continues, hcd] using hcs c hc
        · rintro _ ⟨⟩
          exact hbroken '\n' hfeed
    | number stage digits =>
      rw [read?_number_of_ends hcs, List.cons_append, read?_number_of_ends, ← List.cons_append,
        hbetween]
      rintro _ ⟨⟩
      exact not_continues_newline
    | text inside w =>
      -- The text is over inside a string, and no line end can stand there.
      rw [read?_eq_none rfl, read?_eq_none rfl]
      · intro c hc
        cases hcs c hc
      · rintro _ ⟨⟩
        cases inside <;> rfl

/-- Line ends between tokens change nothing. -/
theorem read?_weave {t : List Char} {gaps : Nat → List Char} {s : State} (hs : s.isUnbroken = true)
    (hgaps : ∀ i, ∀ c ∈ gaps i, c = '\n')
    (hbetween : ∀ i, gaps i ≠ [] → ∀ s' ts c, scanFrom? s (t.take i) = some (s', ts) →
      t[i]? = some c → s'.continues c = false) :
    read? s (Comments.weave gaps t) = read? s t := by
  induction t generalizing gaps s with
  | nil =>
    have hend : read? s (gaps 0 ++ []) = read? s [] := read?_newlines hs (hgaps 0) (by simp)
    rwa [List.append_nil] at hend
  | cons c t ih =>
    have hgap (rest : List Char) : read? s (gaps 0 ++ c :: rest) = read? s (c :: rest) := by
      by_cases hnone : gaps 0 = []
      · rw [hnone, List.nil_append]
      · refine read?_newlines hs (hgaps 0) ?_
        rintro _ ⟨⟩
        exact hbetween 0 hnone s [] c rfl rfl
    rw [Comments.weave, hgap]
    cases hstep : step? s c with
    | none => simp [read?, scanFrom?, hstep]
    | some next =>
      obtain ⟨s', ts⟩ := next
      rw [read?_of_step? hstep, read?_of_step? hstep,
        ih (isUnbroken_of_step? hs hstep) (fun i => hgaps (i + 1))]
      intro i hi s'' us d hscan hd
      refine hbetween (i + 1) hi s'' (ts ++ us) d ?_ hd
      simp [scanFrom?, hstep, hscan]

end Json.Token

/-! ## Main theorem -/

namespace Comments

/-- Comments may be put into a text wherever no string is, if only its strings hold slashes. They
are taken out again, up to the line ends of line comments. Where they stand between tokens, the
configuration that the text writes is the same, or there is none with them and without. -/
theorem comments_transparent {t : List Char} {comments : Nat → List Comment}
    (hslashes : ∀ i, t[i]? = some '/' → quoting (t.take i) ≠ .outside)
    (houtside : ∀ i, comments i ≠ [] → quoting (t.take i) = .outside) :
    let written := weave (fun i => (comments i).flatMap Comment.write) t
    remove written = weave (fun i => (comments i).flatMap Comment.left) t ∧
    ((∀ i, comments i ≠ [] → Json.Token.IsBetween t i) →
      Config.parse? (.ofList written) = Config.parse? (.ofList t)) := by
  intro written
  have hremove : remove written = weave (fun i => (comments i).flatMap Comment.left) t :=
    removeFrom_weave (q := .outside) hslashes houtside
  have hplain : remove t = t := by
    let bare : Nat → List Comment := fun _ => []
    have hweave := @removeFrom_weave t bare .outside hslashes fun _ hnil => absurd rfl hnil
    simp only [bare, List.flatMap_nil, weave_nil] at hweave
    exact hweave
  refine ⟨hremove, fun hbetween => ?_⟩
  have hfeeds : ∀ i, ∀ c ∈ (comments i).flatMap Comment.left, c = '\n' := by
    intro i c hc
    obtain ⟨comment, -, hleft⟩ := List.mem_flatMap.1 hc
    cases comment with
    | block => cases hleft
    | line => exact List.mem_singleton.1 hleft
  have hread : Json.parse? (remove written) = Json.parse? t := by
    rw [hremove, Json.parse?, Json.parse?, Json.scan?_eq_read?, Json.scan?_eq_read?,
      Json.Token.read?_weave rfl hfeeds]
    intro i hi
    exact hbetween i fun hnone => hi (by rw [hnone]; rfl)
  rw [Config.parse?, Config.parse?, String.toList_ofList, String.toList_ofList, hread, hplain]

/-- A string that holds a quote and what looks like a comment, and comments that hold a quote, the
beginnings of other comments and a star at the end. -/
theorem comments_transparent_quotes :
    let t := "\x7b\"overlay\":true,\"eslint\":\x7b\"command\":\"a\\\"/*\"\x7d\x7d".toList
    let comments : Nat → List Comment := fun i =>
      if i = 11 then [.block "*".toList (by decide), .line "\"/*".toList (by decide)]
      else if i = 15 then [.block " // ".toList (by decide)] else []
    let written :=
      "\x7b\"overlay\":/***///\"/*\ntrue/* // */,\"eslint\":\x7b\"command\":\"a\\\"/*\"\x7d\x7d".toList
    weave (fun i => (comments i).flatMap Comment.write) t = written ∧
    (∀ i, t[i]? = some '/' → quoting (t.take i) ≠ .outside) ∧
    (∀ i, comments i ≠ [] → quoting (t.take i) = .outside ∧ Json.Token.IsBetween t i) ∧
    remove written =
      "\x7b\"overlay\":\ntrue,\"eslint\":\x7b\"command\":\"a\\\"/*\"\x7d\x7d".toList ∧
    Config.parse? (.ofList written) =
      some { overlay := some true, esLint := some (.options { command := some "a\"/*" }) } := by
  intro t comments written
  have hwritten : weave (fun i => (comments i).flatMap Comment.write) t = written := by
    decide +kernel
  have hslashes : ∀ i, t[i]? = some '/' → quoting (t.take i) ≠ .outside := by
    have hall : ∀ i < t.length, t[i]? = some '/' → quoting (t.take i) ≠ .outside := by
      decide +kernel
    exact fun i hi => hall i (List.getElem?_eq_some_iff.1 hi).1 hi
  have hgaps : ∀ i, comments i ≠ [] → i = 11 ∨ i = 15 := by
    intro i hi
    by_contra hnone
    rw [not_or] at hnone
    exact hi (by simp [comments, hnone])
  have hplaces : ∀ i, comments i ≠ [] →
      quoting (t.take i) = .outside ∧ Json.Token.IsBetween t i := by
    intro i hi
    -- In front of both places a token has just ended.
    have hscan : ∀ i, i = 11 ∨ i = 15 → ∃ ts,
        Json.Token.scanFrom? .between (t.take i) = some (.between, ts) := by
      rintro _ (rfl | rfl) <;> exact ⟨_, rfl⟩
    refine ⟨by rcases hgaps i hi with rfl | rfl <;> decide +kernel, ?_⟩
    obtain ⟨us, hus⟩ := hscan i (hgaps i hi)
    intro s ts c hts _
    rw [hus] at hts
    cases hts
    rfl
  obtain ⟨hremove, hparse⟩ := comments_transparent hslashes fun i hi => (hplaces i hi).1
  rw [hwritten] at hremove hparse
  refine ⟨hwritten, hslashes, hplaces, hremove.trans (by decide +kernel), ?_⟩
  exact (hparse fun i hi => (hplaces i hi).2).trans (by decide +kernel)

end Comments

end Sidecheck
