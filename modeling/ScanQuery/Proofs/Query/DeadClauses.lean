import ScanQuery.Log.Service
import ScanQuery.Proofs.Query.Grammar
import ScanQuery.Proofs.Text.Lowering

/-!
What reading a query warns about. A clause can never hold when the text behind its negation has no
operator, when what stands before the first operator is no keyword, or when an operator other than
`=` compares anything but severities. Whether it does is read off the raw text here, with operators
and keywords spelled out. Every such clause is warned about once, in the order of the query and
behind a warning about parentheses, and nothing else is told from warnings up: the notes about
groups and clauses that come in between are for debugging.
-/

namespace ScanQuery.Query

/-! ### Dead clauses -/

/-- The first operator of a text, which parts keyword and values: no operator that is looked for
before it occurs in the text, and it occurs nowhere further left. -/
structure OperatorCut (body keyText : String) (op : Comparison) (values : String) : Prop where
  eq_append : body = keyText ++ op.token ++ values
  leftmost : ∀ before after, body = before ++ op.token ++ after →
    keyText.length ≤ before.length
  first : ∃ earlier later, Comparison.detectionOrder = earlier ++ op :: later ∧
    ∀ e ∈ earlier, ¬ e.token.toList <:+: body.toList

/-- Why a text says nothing about findings. -/
inductive DeadBecause (body : String) : Unsupported → Prop where
  | missingOperator (h : OperatorFree body) : DeadBecause body .missingOperator
  | unknownKey {keyText values : String} {op : Comparison}
      (hcut : OperatorCut body keyText op values)
      (hkey : ∀ key : Key, Text.asciiLower (Text.trim keyText) ≠ key.keyword) :
      DeadBecause body (.unknownKey (Text.lower (Text.trim keyText)))
  | ordinalOperator {keyText values : String} {op : Comparison} {key : Key}
      (hcut : OperatorCut body keyText op values)
      (hkey : Text.asciiLower (Text.trim keyText) = key.keyword) (hother : key ≠ .severity)
      (hop : op ≠ .equals) : DeadBecause body (.ordinalOperator key op)

/-- Why a clause can never hold: the trimmed text behind one `not `, if it begins with it, says
nothing about findings. -/
inductive Dead (clause : String) : Unsupported → Prop where
  | negated {rest : String} {why : Unsupported} (hnot : Text.trim clause = "not " ++ rest)
      (hdead : DeadBecause (Text.trim rest) why) : Dead clause why
  | plain {why : Unsupported} (hplain : ¬ "not ".toList <+: (Text.trim clause).toList)
      (hdead : DeadBecause (Text.trim clause) why) : Dead clause why

/-- The warning about a clause that can never hold. -/
def deadClauseWarning (clause : String) (why : Unsupported) : Log.Event where
  level := .warning
  code := match why with
    | .unknownKey _ => Log.Code.unknownKey
    | .missingOperator | .ordinalOperator .. => Log.Code.malformedClause
  message := "Clause can never match"
  context := .ofList [("clause", Text.trim clause), ("reason", why.reason)]

/-- The events are one warning for each dead clause among the given ones, in their order. -/
inductive WarnedAbout : List String → List Log.Event → Prop where
  | nil : WarnedAbout [] []
  | dead {clause : String} {why : Unsupported} {clauses : List String} {events : List Log.Event}
      (hdead : Dead clause why) (hrest : WarnedAbout clauses events) :
      WarnedAbout (clause :: clauses) (deadClauseWarning clause why :: events)
  | live {clause : String} {clauses : List String} {events : List Log.Event}
      (hlive : ∀ why, ¬ Dead clause why) (hrest : WarnedAbout clauses events) :
      WarnedAbout (clause :: clauses) events

/-- The warning about parentheses, where there are any. -/
def parenthesisWarnings (text : String) : List Log.Event :=
  if '(' ∈ text.toList ∨ ')' ∈ text.toList then
    [.warningWithCode Log.Code.unsupportedSyntax
      "Parentheses are not grouping operators and are matched literally" [("query", text)]]
  else []

/-! ### Operators -/

theorem splitOperator?_eq_some_iff {body keyText values : String} {op : Comparison} :
    splitOperator? body = some (keyText, op, values) ↔ OperatorCut body keyText op values := by
  rw [splitOperator?_eq, List.findSome?_eq_some_iff]
  constructor
  · rintro ⟨earlier, op', later, horder, hfound, hnone⟩
    obtain ⟨⟨k, v⟩, hsplit, hpair⟩ := Option.map_eq_some_iff.1 hfound
    obtain ⟨rfl, rfl, rfl⟩ : k = keyText ∧ op' = op ∧ v = values := by simpa using hpair
    obtain ⟨heq, hleft⟩ := (Text.splitOnce?_eq_some_iff op'.token_ne_nil).1 hsplit
    refine ⟨heq, hleft, earlier, later, horder, fun e he hin => ?_⟩
    have hmiss := Option.map_eq_none_iff.1 (hnone e he)
    rw [Text.splitOnce?, Option.map_eq_none_iff, Text.cutAt?_eq_none_iff e.token_ne_nil] at hmiss
    exact hmiss hin
  · rintro ⟨heq, hleft, earlier, later, horder, hmiss⟩
    refine ⟨earlier, op, later, horder, ?_, fun e he => ?_⟩
    · rw [(Text.splitOnce?_eq_some_iff op.token_ne_nil).2 ⟨heq, hleft⟩]
      rfl
    · rw [Option.map_eq_none_iff, Text.splitOnce?, Option.map_eq_none_iff,
        Text.cutAt?_eq_none_iff e.token_ne_nil]
      exact hmiss e he

/-- An operator is found unless the text has no character that operators are made of. -/
theorem splitOperator?_eq_none_iff {body : String} :
    splitOperator? body = none ↔ OperatorFree body := by
  have htoken : ∀ c : Comparison,
      (Text.splitOnce? c.token body).map (fun cut => (cut.1, c, cut.2)) = none ↔
        ¬ c.token.toList <:+: body.toList := by
    intro c
    rw [Option.map_eq_none_iff, Text.splitOnce?, Option.map_eq_none_iff,
      Text.cutAt?_eq_none_iff c.token_ne_nil]
  rw [splitOperator?_eq, List.findSome?_eq_none_iff]
  simp only [htoken]
  constructor
  · intro hnone d hd hop
    -- each of the characters is an operator by itself
    have hsingle : ∃ c ∈ Comparison.detectionOrder, c.token.toList = [d] := by
      rcases (by simpa using hop : d = '<' ∨ d = '>' ∨ d = '=') with rfl | rfl | rfl
      · exact ⟨.lessThan, by decide, rfl⟩
      · exact ⟨.greaterThan, by decide, rfl⟩
      · exact ⟨.equals, by decide, rfl⟩
    obtain ⟨c, hc, htext⟩ := hsingle
    refine hnone c hc ?_
    rw [htext]
    exact (List.singleton_infix_iff d _).2 hd
  · intro hfree c _ hin
    obtain ⟨d, rest, htext⟩ := List.exists_cons_of_ne_nil c.token_ne_nil
    have hd : d ∈ c.token.toList := htext ▸ List.mem_cons_self
    exact hfree d (hin.subset hd) (mem_operators_of_mem_token c d hd)

/-! ### Keywords -/

theorem Key.mem_all (key : Key) : key ∈ Key.all := by
  cases key <;> decide

theorem Key.keyword_injective {key key' : Key} (h : key.keyword = key'.keyword) : key = key' := by
  cases key <;> cases key' <;> first | rfl | exact absurd h (by decide)

theorem Key.ofKeyword?_eq_some_iff {text : String} {key : Key} :
    Key.ofKeyword? text = some key ↔ Text.asciiLower (Text.trim text) = key.keyword := by
  rw [Key.ofKeyword?]
  constructor
  · intro hfind
    have hfound := List.find?_some hfind
    simpa [eq_comm] using hfound
  · intro heq
    cases hfind : Key.all.find? (·.keyword = Text.asciiLower (Text.trim text)) with
    | none => exact absurd heq.symm (by simpa using List.find?_eq_none.1 hfind key key.mem_all)
    | some key' =>
      have hfound : key'.keyword = Text.asciiLower (Text.trim text) := by
        simpa using List.find?_some hfind
      rw [Key.keyword_injective (hfound.trans heq)]

/-- A keyword is recognised in lower case exactly if it is so in any ASCII case. -/
theorem Key.ofKeyword?_lower_trim_iff {text : String} {key : Key} :
    Key.ofKeyword? (Text.lower (Text.trim text)) = some key ↔
      Text.asciiLower (Text.trim text) = key.keyword := by
  have htrimmed : Text.Trimmed (Text.trim text).toList := by
    rw [Text.toList_trim]
    exact Text.trimmed_trimChars text.toList
  rw [Key.ofKeyword?_eq_some_iff, Text.trim_lower_of_trimmed htrimmed,
    Text.asciiLower_lower_eq_iff (by cases key <;> simp [Key.keyword])]

/-! ### Reading a dead clause -/

theorem Condition.parse_of_operatorFree {body : String} (h : OperatorFree body) :
    Condition.parse body = .unsupported .missingOperator := by
  simp only [Condition.parse, splitOperator?_eq_none_iff.2 h]

theorem Condition.parse_of_unknown {body keyText values : String} {op : Comparison}
    (hsplit : splitOperator? body = some (keyText, op, values))
    (hkey : Key.ofKeyword? (Text.lower (Text.trim keyText)) = none) :
    Condition.parse body = .unsupported (.unknownKey (Text.lower (Text.trim keyText))) := by
  simp only [Condition.parse, hsplit, hkey]

theorem Condition.among_ne_unsupported (key : Key) (values : List String) (why : Unsupported) :
    Condition.among key values ≠ .unsupported why := by
  cases key <;> exact nofun

/-- A condition that is not understood is dead. -/
theorem deadBecause_of_parse {body : String} {why : Unsupported}
    (h : Condition.parse body = .unsupported why) : DeadBecause body why := by
  cases hsplit : splitOperator? body with
  | none =>
    have hfree := splitOperator?_eq_none_iff.1 hsplit
    rw [Condition.parse_of_operatorFree hfree] at h
    cases h
    exact .missingOperator hfree
  | some cut =>
    obtain ⟨keyText, op, values⟩ := cut
    have hcut := splitOperator?_eq_some_iff.1 hsplit
    cases hkey : Key.ofKeyword? (Text.lower (Text.trim keyText)) with
    | none =>
      rw [Condition.parse_of_unknown hsplit hkey] at h
      cases h
      refine .unknownKey hcut fun key heq => ?_
      rw [Key.ofKeyword?_lower_trim_iff.2 heq] at hkey
      exact nomatch hkey
    | some key =>
      by_cases hop : op = .equals
      · rw [hop] at hsplit
        rw [Condition.parse_of_equals hsplit hkey] at h
        exact absurd h (Condition.among_ne_unsupported key _ why)
      · by_cases hseverity : key = .severity
        · rw [hseverity] at hkey
          rw [Condition.parse_of_ordinal hsplit hop hkey] at h
          exact nomatch h
        · rw [Condition.parse_of_undefined hsplit hop hkey hseverity] at h
          cases h
          exact .ordinalOperator hcut (Key.ofKeyword?_lower_trim_iff.1 hkey) hseverity hop

theorem DeadBecause.parse_eq {body : String} {why : Unsupported} (h : DeadBecause body why) :
    Condition.parse body = .unsupported why := by
  cases h with
  | missingOperator hfree => exact Condition.parse_of_operatorFree hfree
  | unknownKey hcut hkey =>
    refine Condition.parse_of_unknown (splitOperator?_eq_some_iff.2 hcut) ?_
    rw [Option.eq_none_iff_forall_ne_some]
    exact fun key hsome => hkey key (Key.ofKeyword?_lower_trim_iff.1 hsome)
  | ordinalOperator hcut hkey hother hop =>
    exact Condition.parse_of_undefined (splitOperator?_eq_some_iff.2 hcut) hop
      (Key.ofKeyword?_lower_trim_iff.2 hkey) hother

theorem Condition.parse_eq_unsupported_iff {body : String} {why : Unsupported} :
    Condition.parse body = .unsupported why ↔ DeadBecause body why :=
  ⟨deadBecause_of_parse, DeadBecause.parse_eq⟩

theorem Clause.condition_parse_of_negation {clause rest : String}
    (h : Text.trim clause = negation ++ rest) :
    (Clause.parse clause).condition = Condition.parse (Text.trim rest) := by
  simp only [Clause.parse, splitNegation, Text.afterStart?_eq_some_iff.2 h]

theorem Clause.condition_parse_of_plain {clause : String}
    (h : ¬ negation.toList <+: (Text.trim clause).toList) :
    (Clause.parse clause).condition = Condition.parse (Text.trim clause) := by
  rw [Clause.parse_plain h, Condition.parse_trim]

/-- A clause is read as one that never holds exactly when it is dead, for the same reason. -/
theorem Clause.parse_eq_unsupported_iff {clause : String} {why : Unsupported} :
    (Clause.parse clause).condition = .unsupported why ↔ Dead clause why := by
  constructor
  · intro h
    by_cases hnot : negation.toList <+: (Text.trim clause).toList
    · obtain ⟨rest, hrest⟩ := hnot
      have htext : Text.trim clause = negation ++ String.ofList rest := by
        rw [← String.toList_inj, String.toList_append, String.toList_ofList, hrest]
      rw [Clause.condition_parse_of_negation htext] at h
      exact .negated htext (Condition.parse_eq_unsupported_iff.1 h)
    · rw [Clause.condition_parse_of_plain hnot] at h
      exact .plain hnot (Condition.parse_eq_unsupported_iff.1 h)
  · intro h
    cases h with
    | negated hnot hdead =>
      rw [Clause.condition_parse_of_negation hnot, Condition.parse_eq_unsupported_iff]
      exact hdead
    | plain hplain hdead =>
      rw [Clause.condition_parse_of_plain hplain, Condition.parse_eq_unsupported_iff]
      exact hdead

/-! ### Warnings -/

/-- The notes about groups and clauses are for debugging. -/
theorem admitted_groupEvents (index : Nat) (clauses : List String) :
    Log.Service.admitted .warning (groupEvents index clauses) = [] := by
  have hdebug : ∀ e ∈ groupEvents index clauses, e.level = .debug := by
    intro e he
    rcases List.mem_cons.1 he with rfl | he
    · rfl
    · obtain ⟨clause, -, rfl⟩ := List.mem_map.1 he
      rfl
  refine List.filter_eq_nil_iff.2 fun e he => ?_
  rw [hdebug e he]
  decide

theorem admitted_warnings {events : List Log.Event} (h : ∀ e ∈ events, e.level = .warning) :
    Log.Service.admitted .warning events = events := by
  refine List.filter_eq_self.2 fun e he => ?_
  rw [h e he]
  decide

theorem hasParenthesis_iff {text : String} :
    hasParenthesis text = true ↔ '(' ∈ text.toList ∨ ')' ∈ text.toList := by
  simp [hasParenthesis, and_or_left, exists_or]

/-- What is told from warnings up: the warnings about parentheses and about clauses. -/
theorem admitted_parseEvents (text : String) :
    Log.Service.admitted .warning (parseEvents text) = parenthesisWarnings text ++
      (parse text).deadClauses.map fun d => deadClauseEvent d.1 d.2 := by
  have hgroups : Log.Service.admitted .warning
      ((splitGroups text).zipIdx.flatMap fun g => groupEvents g.2 g.1) =
        [] := by
    rw [Log.Service.admitted, List.filter_flatMap, List.flatMap_eq_nil_iff]
    exact fun x _ => admitted_groupEvents x.2 x.1
  have hclauses : Log.Service.admitted .warning
      ((parse text).deadClauses.map fun d => deadClauseEvent d.1 d.2) =
        (parse text).deadClauses.map fun d => deadClauseEvent d.1 d.2 := by
    refine admitted_warnings fun e he => ?_
    obtain ⟨dead, -, rfl⟩ := List.mem_map.1 he
    rfl
  have hparentheses : Log.Service.admitted .warning (parenthesisWarnings text) =
      parenthesisWarnings text := by
    refine admitted_warnings fun e he => ?_
    unfold parenthesisWarnings at he
    split at he
    · rw [List.mem_singleton.1 he]
      rfl
    · exact nomatch he
  have hevents : parseEvents text = parenthesisWarnings text ++
      ((splitGroups text).zipIdx.flatMap fun g => groupEvents g.2 g.1) ++
        (parse text).deadClauses.map fun d => deadClauseEvent d.1 d.2 := by
    simp only [parseEvents, parenthesisWarnings, hasParenthesis_iff]
  rw [hevents, Log.Service.admitted, List.filter_append, List.filter_append,
    ← Log.Service.admitted, ← Log.Service.admitted, ← Log.Service.admitted, hgroups, hclauses,
    hparentheses, List.append_nil]

theorem clauses_parse (text : String) :
    (parse text).clauses = (splitGroups text).flatten.map Clause.parse :=
  List.map_flatten.symm

theorem Condition.unsupported?_eq_some_iff {c : Condition} {why : Unsupported} :
    c.unsupported? = some why ↔ c = .unsupported why := by
  cases c <;> simp [unsupported?]

/-- The warnings about clauses, read off the texts of the clauses. -/
theorem map_deadClauses_parse (text : String) :
    ((parse text).deadClauses.map fun d => deadClauseEvent d.1 d.2) =
      (splitGroups text).flatten.filterMap fun clause =>
        (Clause.parse clause).condition.unsupported?.map
          (deadClauseEvent (Clause.parse clause)) := by
  rw [deadClauses, clauses_parse, List.map_filterMap, List.filterMap_map]
  simp only [Function.comp_def, Option.map_map]

theorem Clause.text_parse (clause : String) : (Clause.parse clause).text = Text.trim clause := by
  rw [Clause.parse]

/-- Each dead clause of a list is warned about once, in order. -/
theorem warnedAbout_filterMap (clauses : List String) :
    WarnedAbout clauses (clauses.filterMap fun clause =>
      (Clause.parse clause).condition.unsupported?.map
        (deadClauseEvent (Clause.parse clause))) := by
  induction clauses with
  | nil => exact .nil
  | cons clause rest ih =>
    cases hwhy : (Clause.parse clause).condition.unsupported? with
    | none =>
      rw [List.filterMap_cons_none (by rw [hwhy, Option.map_none])]
      refine .live (fun why hdead => ?_) ih
      rw [Condition.unsupported?_eq_some_iff.2 (Clause.parse_eq_unsupported_iff.2 hdead)] at hwhy
      exact nomatch hwhy
    | some why =>
      have hdead := Clause.parse_eq_unsupported_iff.1 (Condition.unsupported?_eq_some_iff.1 hwhy)
      have hevent : deadClauseEvent (Clause.parse clause) why = deadClauseWarning clause why := by
        rw [deadClauseEvent, Clause.text_parse]
        cases why <;> rfl
      rw [List.filterMap_cons_some (by rw [hwhy, Option.map_some, hevent])]
      exact .dead hdead ih

/-- From warnings up, reading a query tells about parentheses once if there are any, and then once
about each dead clause, in the order of the query; and the clauses that are dead are those that are
read as conditions that never hold, with the reason that is told. -/
theorem dead_clauses_told (text : String) :
    (∃ warnings, WarnedAbout (splitGroups text).flatten warnings ∧
        Log.Service.admitted .warning (parseEvents text) = parenthesisWarnings text ++ warnings) ∧
      (parse text).clauses = (splitGroups text).flatten.map Clause.parse ∧
      ∀ clause why, (Clause.parse clause).condition = .unsupported why ↔ Dead clause why := by
  refine ⟨⟨_, warnedAbout_filterMap _, ?_⟩, clauses_parse text,
    fun _ _ => Clause.parse_eq_unsupported_iff⟩
  rw [admitted_parseEvents, map_deadClauses_parse]

/-- A key in parentheses is no keyword, and a clause that is written twice is warned about twice. -/
example : (Log.Service.admitted .warning (parseEvents "(sev=cri or not port>5 and not port>5")).map
    Log.Event.format =
      ["[WARN] E012 - Parentheses are not grouping operators and are matched literally " ++
          "(query=(sev=cri or not port>5 and not port>5)",
        "[WARN] E011 - Clause can never match (clause=(sev=cri, reason=unknown key '(sev')",
        "[WARN] E010 - Clause can never match (clause=not port>5, " ++
          "reason=operator '>' is not defined for 'port')",
        "[WARN] E010 - Clause can never match (clause=not port>5, " ++
          "reason=operator '>' is not defined for 'port')"] := by
  decide +kernel

end ScanQuery.Query
