import TreeLint.Proofs.Cli.Verdict
import TreeLint.Proofs.Dump.Inverse
import TreeLint.Proofs.Message.Pieces
import TreeLint.Proofs.Path.Parts
import TreeLint.Proofs.Tree.Subtree

/-!
# One line for each violation

The compact format writes each violation and ends the line. Nothing is done about line breaks in what it
writes. **The law** (`Format.compact_lines_exact`): the lines of the output are the violations, one for
each, exactly when no violation has a line break in its file name, its key or its message, and otherwise
there are more lines than violations.

What violations are made of comes from dumps and from the configuration. If no line break is in the source
paths and tokens of the dumps (`Dump.Unbroken`) nor in the keys and message templates of the rules
(`Rule.Unbroken`), then none is in a violation. If there is one, then a line of the output can be any text
whatever (`Cli.CheckRequest.forgedRequest_forges`).
-/

namespace TreeLint

/-! ## Lines -/

namespace Text

/-- A text without a line break. -/
def Unbroken (text : String) : Prop :=
  '\n' ∉ text.toList

instance (text : String) : Decidable (Unbroken text) :=
  inferInstanceAs (Decidable (_ ∉ _))

@[simp]
theorem unbroken_append {first second : String} :
    Unbroken (first ++ second) ↔ Unbroken first ∧ Unbroken second := by
  unfold Unbroken
  rw [String.toList_append, List.mem_append, not_or]

/-- The lines of a text. A line break at its end starts no further line. -/
def linesOf (text : String) : List String :=
  let fields := fieldsOf '\n' text
  if fields.getLast? = some "" then fields.dropLast else fields

/-- A text is one field exactly when no separator is in it. -/
theorem length_fields_eq_one_iff {separator : Char} {text : List Char} :
    (fields separator text).length = 1 ↔ separator ∉ text := by
  constructor
  · intro hone hmem
    obtain ⟨before, after, rfl⟩ := List.append_of_mem hmem
    have hbefore := List.length_pos_of_ne_nil (fields_ne_nil separator before)
    have hafter := List.length_pos_of_ne_nil (fields_ne_nil separator after)
    rw [fields_append, List.length_append] at hone
    omega
  · intro h
    rw [fields_of_notMem h]
    rfl

theorem length_fieldsOf_pos (separator : Char) (text : String) : 0 < (fieldsOf separator text).length := by
  unfold fieldsOf
  rw [List.length_map]
  exact List.length_pos_of_ne_nil (fields_ne_nil separator text.toList)

theorem length_fieldsOf_eq_one_iff {text : String} :
    (fieldsOf '\n' text).length = 1 ↔ Unbroken text := by
  unfold fieldsOf
  rw [List.length_map, length_fields_eq_one_iff]
  rfl

theorem Unbroken.fieldsOf_eq {text : String} (h : Unbroken text) : fieldsOf '\n' text = [text] := by
  unfold fieldsOf
  rw [fields_of_notMem h, List.map_singleton, String.ofList_toList]

theorem fieldsOf_line_append (text rest : String) :
    fieldsOf '\n' (Format.line text ++ rest) = fieldsOf '\n' text ++ fieldsOf '\n' rest := by
  unfold fieldsOf Format.line
  rw [String.toList_append, String.toList_append, List.append_assoc, ← List.map_append, ← fields_append]
  rfl

/-- The lines of texts that are written one after the other. -/
theorem linesOf_join_line (texts : List String) :
    linesOf (String.join (texts.map Format.line)) = texts.flatMap (fieldsOf '\n') := by
  have hfields : fieldsOf '\n' (String.join (texts.map Format.line)) =
      texts.flatMap (fieldsOf '\n') ++ [""] := by
    induction texts with
    | nil => rfl
    | cons text rest ih =>
      rw [List.map_cons, String.join_cons, fieldsOf_line_append, ih, List.flatMap_cons, List.append_assoc]
  unfold linesOf
  rw [hfields]
  dsimp only
  rw [List.getLast?_concat, if_pos rfl, List.dropLast_concat]

/-- There are at least as many lines as texts. -/
theorem length_le_length_lines (texts : List String) :
    texts.length ≤ (texts.flatMap (fieldsOf '\n')).length := by
  induction texts with
  | nil => exact Nat.le_refl _
  | cons text rest ih =>
    have hpos := length_fieldsOf_pos '\n' text
    rw [List.flatMap_cons, List.length_append, List.length_cons]
    omega

/-- **Texts that are written one after the other are the lines of what is written** exactly when no line
break is in any of them, and just then there are as many lines as texts. -/
theorem lines_eq_iff (texts : List String) :
    (linesOf (String.join (texts.map Format.line)) = texts ↔ ∀ text ∈ texts, Unbroken text) ∧
      ((linesOf (String.join (texts.map Format.line))).length = texts.length ↔
        ∀ text ∈ texts, Unbroken text) := by
  rw [linesOf_join_line]
  have hlines : (∀ text ∈ texts, Unbroken text) → texts.flatMap (fieldsOf '\n') = texts := by
    intro h
    rw [List.flatMap_congr fun text hmem => (h text hmem).fieldsOf_eq, List.flatMap_singleton']
  have hunbroken : (texts.flatMap (fieldsOf '\n')).length = texts.length →
      ∀ text ∈ texts, Unbroken text := by
    intro hlength text hmem
    obtain ⟨before, after, rfl⟩ := List.append_of_mem hmem
    have hbefore := length_le_length_lines before
    have hafter := length_le_length_lines after
    have hpos := length_fieldsOf_pos '\n' text
    rw [List.flatMap_append, List.flatMap_cons, List.length_append, List.length_append,
      List.length_append, List.length_cons] at hlength
    exact length_fieldsOf_eq_one_iff.mp (by omega)
  exact ⟨⟨fun h => hunbroken (congrArg List.length h), hlines⟩,
    ⟨hunbroken, fun h => congrArg List.length (hlines h)⟩⟩

theorem unbroken_decimal (n : Nat) : Unbroken (Decimal.text n) := by
  unfold Unbroken Decimal.text
  rw [String.toList_ofList]
  intro hmem
  exact absurd (Decimal.isDigit_of_mem_digits hmem) (by decide)

end Text

/-! ## Violations -/

/-- A violation with no line break in what it is made of. -/
structure Violation.Unbroken (violation : Violation) : Prop where
  file : Text.Unbroken violation.location.file
  code : Text.Unbroken violation.code
  message : Text.Unbroken violation.message

theorem Severity.unbroken_name (severity : Severity) : Text.Unbroken severity.name := by
  cases severity <;> decide

/-- A violation is on one line exactly when no line break is in what it is made of. -/
theorem Violation.unbroken_text {violation : Violation} :
    Text.Unbroken violation.text ↔ violation.Unbroken := by
  have hcolon : Text.Unbroken ":" := by decide
  have hblank : Text.Unbroken ": " := by decide
  have hspace : Text.Unbroken " [" := by decide
  have hclose : Text.Unbroken "] " := by decide
  simp only [text, Location.text, Text.unbroken_append, toString, hcolon, hblank, hspace, hclose,
    Text.unbroken_decimal, Severity.unbroken_name, and_true]
  exact ⟨fun ⟨⟨hfile, hcode⟩, hmessage⟩ => ⟨hfile, hcode, hmessage⟩,
    fun ⟨hfile, hcode, hmessage⟩ => ⟨⟨hfile, hcode⟩, hmessage⟩⟩

/-! ## What violations are made of -/

/-- No line break is in what a dump that is read from a path gives to reports: the path to report, and the
tokens. -/
structure Dump.Unbroken (dump : Dump) (path : String) : Prop where
  source : Text.Unbroken (dump.source.getD path)
  token : ∀ node ∈ dump.nodes, ∀ token, node.token = some token → Text.Unbroken token

/-- No line break is in what a rule gives to reports: its key and its message. -/
structure Rule.Unbroken (rule : Rule) : Prop where
  key : Text.Unbroken rule.check.key
  message : Text.Unbroken rule.check.message

/-- A filled template has no characters but those of the template and of the arguments. -/
theorem Message.mem_fill {template : String} {args : List String} {c : Char}
    (h : c ∈ (fill template args).toList) : c ∈ template.toList ∨ ∃ arg ∈ args, c ∈ arg.toList := by
  obtain ⟨pieces, hpieces, hfill⟩ := exists_decomposes args.length template.toList
  rw [fill, String.toList_ofList, hfill args rfl] at h
  obtain ⟨piece, hmem, hc⟩ := List.mem_flatMap.mp h
  cases piece with
  | char d =>
    rw [← hpieces.spells]
    exact .inl (List.mem_flatMap.mpr ⟨_, hmem, hc⟩)
  | place word index =>
    have harg := List.getElem?_eq_getElem (hpieces.valid hmem).2
    rw [Piece.filled, harg] at hc
    exact .inr ⟨_, List.getElem_mem _, hc⟩

namespace Node

/-- The text of a node is the token of some node of the tree. -/
theorem exists_token_of_tokenValue? {node : Node} (wf : Arena.WellFormed node.tree.nodes) {text : String}
    (h : node.tokenValue? = some text) :
    ∃ other : Node, other.tree = node.tree ∧ other.token = some text := by
  rw [tokenValue?_eq_findSome? wf] at h
  obtain ⟨other, hmem, htoken⟩ := List.exists_of_findSome?_eq_some h
  exact ⟨other, ((mem_subtree wf).mp hmem).1, htoken⟩

end Node

/-- The name of a class is the token of some node of the tree. -/
theorem Rules.ConstructorDispatch.ClassNamed.exists_token {owner : Node}
    (wf : Arena.WellFormed owner.tree.nodes) {className : String} (h : ClassNamed owner className) :
    ∃ other : Node, other.tree = owner.tree ∧ other.token = some className := by
  obtain ⟨name, identifiers, last, hname, hidentifiers, hlast, htoken⟩ := h
  have htree : last.tree = owner.tree := by
    rw [hlast.1, Node.tree_of_mem_children hidentifiers.mem_children,
      Node.tree_of_mem_children hname.mem_children]
  rw [← htree] at wf ⊢
  exact Node.exists_token_of_tokenValue? wf htoken

/-- **What a rule says has no line break**, if its message has none and the tokens of the tree have
none. -/
theorem Rule.Says.unbroken {rule : Rule} {node : Node} {text : String} (h : rule.Says node text)
    (hrule : rule.Unbroken) (wf : Arena.WellFormed node.tree.nodes)
    (htokens : ∀ other : Node, other.tree = node.tree → ∀ token, other.token = some token →
      Text.Unbroken token) : Text.Unbroken text := by
  cases h with
  | @nodes key name kind message severity node hkind =>
    have hvalue : Text.Unbroken (node.tokenValue?.getD "") := by
      cases hvalue : node.tokenValue? with
      | none => decide
      | some token =>
        obtain ⟨other, htree, htoken⟩ := Node.exists_token_of_tokenValue? wf hvalue
        exact htokens other htree token htoken
    intro hbreak
    rcases Message.mem_fill hbreak with hbreak | ⟨arg, harg, hbreak⟩
    · exact hrule.message hbreak
    · rw [List.mem_singleton.mp harg] at hbreak
      exact hvalue hbreak
  | octal hkind => decide
  | @dispatch severity call className node hoffends =>
    obtain ⟨between, owner, above, hancestors, -, -, hname, -⟩ := hoffends.enclosed
    have htree : owner.tree = node.tree := by
      refine Node.tree_of_mem_ancestors node ?_
      rw [hancestors]
      exact List.mem_append_right _ List.mem_cons_self
    rw [← htree] at wf htokens
    obtain ⟨other, hother, htoken⟩ := hname.exists_token wf
    have hbefore : Text.Unbroken "Remove this event dispatch from the " := by decide
    have hafter : Text.Unbroken " constructor" := by decide
    rw [Text.unbroken_append, Text.unbroken_append]
    exact ⟨⟨hbefore, htokens other hother className htoken⟩, hafter⟩

/-- The tokens of a tree are those of the dump it is loaded from. -/
theorem Dump.Unbroken.token_of_toTree {dump : Dump} {path : String} (h : dump.Unbroken path)
    {tree : SyntaxTree} (htree : dump.toTree = .ok tree) {node : Node} (hnode : node.tree = tree)
    {token : String} (htoken : node.token = some token) : Text.Unbroken token := by
  have hnodes : (ofTree tree dump.source).nodes = dump.nodes := by
    rw [ofTree_toTree htree]
  refine h.token (nodeOf node) ?_ token htoken
  rw [← hnodes]
  exact List.mem_map_of_mem (SyntaxTree.mem_toList.mpr hnode)

namespace Analyzer

/-- **No line break is in what an analysis takes from its configuration and its files.** -/
structure ReadsUnbroken (plan : AnalysisPlan) (rules : List Rule) (analyzer : Analyzer) (fs : FileSystem) :
    Prop where
  rules : ∀ rule ∈ rules ++ plan.config.nodeRules.filterMap NodeRuleConfig.rule?, rule.Unbroken
  dumps : ∀ path ∈ analyzer.files fs, ∀ content dump, fs.read path = .ok content →
    Dump.parse content = .ok dump → dump.Unbroken path

/-- **Then no line break is in what it finds.** -/
theorem ReadsUnbroken.violation {plan : AnalysisPlan} {rules : List Rule} {analyzer : Analyzer}
    {fs : FileSystem} (h : ReadsUnbroken plan rules analyzer fs)
    (offered : plan.checks = rules.map Rule.check) {currentDirectory : String}
    (planned : (plan.build currentDirectory).value = .ok analyzer) {result : LintResult}
    (analyzed : (analyzer.analyze fs).value = .ok result) {violation : Violation}
    (hmem : violation ∈ result.violations) : violation.Unbroken := by
  obtain ⟨_, nodeRules, dispatcher, _, hload, accepted, rfl⟩ := AnalysisPlan.build_eq_ok_iff.mp planned
  rw [offered, Rules.NodeRule.load_eq_ok hload, ← List.map_append,
    AnalysisPlan.registrations_map_check] at accepted
  rw [violations_analyze analyzed] at hmem
  obtain ⟨path, hpath, hmem⟩ := List.mem_flatMap.mp hmem
  have hgoes : plan.cancelled = false := by
    cases hcancelled : plan.cancelled with
    | false => rfl
    | true =>
      rw [process, if_pos hcancelled] at hmem
      cases hmem
  obtain ⟨tree, source, hload, hmem⟩ := (mem_violations_process hgoes).mp hmem
  obtain ⟨content, dump, hread, hparse, htree, rfl⟩ := load_eq_ok.mp hload
  have hdump : dump.Unbroken path := h.dumps path hpath content dump hread hparse
  have built : tree.Built := .ofDump dump htree
  obtain ⟨node, hnode, rule, override, hrule, text, hsays, rfl⟩ :=
    (Rule.mem_violations_run built accepted).mp hmem
  have hrule : rule.Unbroken := h.rules rule (AnalysisPlan.mem_rulesToRun.mp hrule).1
  refine ⟨hdump.source, hrule.key, hsays.unbroken hrule (hnode ▸ built.wellFormed) fun other hother => ?_⟩
  exact fun token htoken => hdump.token_of_toTree htree (hother.trans hnode) htoken

end Analyzer

/-! ## The law -/

/-- **The compact format has one line for each violation exactly when no line break is in one.** In any
case its lines are those of the violations, one violation after the other. For the rules that a run can
have, there is none if none is in the dumps and in the configuration. -/
theorem Format.compact_lines_exact (result : LintResult) :
    Text.linesOf (Format.write .compact result) =
        (result.violations.flatMap fun violation => Text.fieldsOf '\n' violation.text) ∧
      (Text.linesOf (Format.write .compact result) = result.violations.map Violation.text ↔
        ∀ violation ∈ result.violations, violation.Unbroken) ∧
      ((Text.linesOf (Format.write .compact result)).length = result.violations.length ↔
        ∀ violation ∈ result.violations, violation.Unbroken) ∧
      ∀ (plan : AnalysisPlan) (rules : List Rule) (currentDirectory : String) (analyzer : Analyzer)
        (fs : FileSystem), plan.checks = rules.map Rule.check →
        (plan.build currentDirectory).value = .ok analyzer → (analyzer.analyze fs).value = .ok result →
        Analyzer.ReadsUnbroken plan rules analyzer fs →
        ∀ violation ∈ result.violations, violation.Unbroken := by
  have hwrite : Format.write .compact result =
      String.join ((result.violations.map Violation.text).map Format.line) := by
    rw [List.map_map]
    rfl
  have hunbroken : (∀ text ∈ result.violations.map Violation.text, Text.Unbroken text) ↔
      ∀ violation ∈ result.violations, violation.Unbroken := by
    simp only [List.forall_mem_map, Violation.unbroken_text]
  obtain ⟨hlines, hlength⟩ := Text.lines_eq_iff (result.violations.map Violation.text)
  rw [hunbroken] at hlines hlength
  rw [List.length_map] at hlength
  rw [hwrite]
  refine ⟨?_, hlines, hlength, fun plan rules currentDirectory analyzer fs offered planned analyzed h => ?_⟩
  · rw [Text.linesOf_join_line, List.flatMap_map]
  · exact fun violation hmem => h.violation offered planned analyzed hmem

namespace Analyzer

/-- A declared rule about octal literals, to be run over two files. -/
def octalPlan : AnalysisPlan where
  root := none
  paths := ["A.json", "B.json"]
  checks := []
  onlyRules := none
  excludes := []
  config := { Config.standard with
    analyzer := { Config.standard.analyzer with exclude := [] }
    nodeRules := [⟨"X1", "numbers", "OCTAL", "Number \x7b0\x7d", none⟩] }
  failOnLoadError := false
  cancelled := false

/-- What comes of the plan. -/
def octalAnalyzer : Analyzer where
  root := octalPlan.searchRoot "/w"
  currentDirectory := "/w"
  paths := ["A.json", "B.json"]
  dispatcher :=
    ⟨[Registered.of (Rules.NodeRule.check "X1" "numbers" .octal "Number \x7b0\x7d" .major, none)],
      ⟨[(.octal, [0])]⟩, ⟨[]⟩⟩
  excludes := []
  suffixes := Config.standard.analyzer.suffixes
  failOnLoadError := false
  cancelled := false

def octalText : String :=
  "\x7b\"nodes\":[\x7b\"kind\":\"OCTAL\",\"token\":\"010\",\"line\":2\x7d]\x7d"

/-- One of the files is a dump, the other is not there. -/
def octalFiles : FileSystem :=
  ⟨[(["w", "A.json"], .file (.text octalText))]⟩

def octalResult : LintResult where
  violations := [⟨"X1", "numbers", .major, ⟨"/w/A.json", 2, 1⟩, "Number 010"⟩]
  diagnostics := []
  failures := [⟨"/w/B.json", "Failed to read /w/B.json: No such file or directory (os error 2)"⟩]
  filesChecked := 1
  cancelled := false

theorem build_octalPlan : (octalPlan.build "/w").value = .ok octalAnalyzer := by
  have hkind : NodeKind.ofName? "OCTAL" = some .octal := by decide
  have hload : Rules.NodeRule.load octalPlan.config =
      .ok [Rules.NodeRule.check "X1" "numbers" .octal "Number \x7b0\x7d" .major] := by
    simp only [Rules.NodeRule.load, octalPlan, List.mapM_cons, List.mapM_nil, Rules.NodeRule.ofConfig,
      hkind]
    rfl
  exact AnalysisPlan.build_eq_ok_iff.mpr ⟨[], _, _, rfl, hload, rfl, rfl⟩

theorem octalAnalyzer_readsUnbroken : ReadsUnbroken octalPlan [] octalAnalyzer octalFiles where
  rules := by
    have hrules : octalPlan.config.nodeRules.filterMap NodeRuleConfig.rule? =
        [.nodes "X1" "numbers" .octal "Number \x7b0\x7d" .major] := by decide
    intro rule hrule
    rw [List.nil_append, hrules, List.mem_singleton] at hrule
    subst hrule
    exact ⟨by decide, by decide⟩
  dumps := by
    intro path hpath content dump hread hparse
    have hfiles : octalAnalyzer.files octalFiles = ["/w/A.json", "/w/B.json"] := by decide
    rw [hfiles] at hpath
    rcases List.mem_pair.mp hpath with rfl | rfl
    · cases hread
      have hdump : Dump.parse octalText = .ok ⟨none, [⟨.octal, some "010", 2, 1, 0⟩]⟩ := by
        decide +kernel
      cases hdump.symm.trans hparse
      exact ⟨by decide, by decide⟩
    · cases hread

/-- An analysis of a dump without line breaks writes one line. -/
theorem octalResult_on_one_line :
    (octalAnalyzer.analyze octalFiles).value = .ok octalResult ∧
      Text.linesOf (Format.write .compact octalResult) = ["/w/A.json:2:1: major [X1] Number 010"] := by
  have analyzed : (octalAnalyzer.analyze octalFiles).value = .ok octalResult := by decide +kernel
  obtain ⟨_, hlines, _, hunbroken⟩ := Format.compact_lines_exact octalResult
  refine ⟨analyzed, (hlines.mpr ?_).trans (by decide +kernel)⟩
  exact hunbroken octalPlan [] "/w" octalAnalyzer octalFiles rfl build_octalPlan analyzed
    octalAnalyzer_readsUnbroken

end Analyzer

namespace Cli.CheckRequest

/-- A dump with a token that goes on behind a line break. -/
def forgedEnvironment : Environment where
  files := ⟨[(["w", "x.ast.json"], .file (.text ("\x7b\"nodes\": [\x7b\"kind\": \"OCTAL\", " ++
    "\"token\": \"010\\nB.as:1:1: blocker [S1467] forged\", \"line\": 3\x7d]\x7d")))]⟩
  currentDirectory := "/w"
  home := none
  configDirectory := none

/-- A configuration that declares a rule whose message has the token in it. -/
def forgedConfig : LoadedConfig where
  config := { Config.standard with
    nodeRules := [⟨"N1", "numbers", "OCTAL", "Number \x7b0\x7d", none⟩] }
  origin := none

/-- A check of the dump by this rule. -/
def forgedRequest : CheckRequest where
  config := none
  paths := ["x.ast.json"]
  format := .compact
  rules := some "N1"
  excludes := []

/-- What the check comes to. -/
def forgedVerdict : Verdict where
  result := {
    violations := [⟨"N1", "numbers", .major, ⟨"/w/x.ast.json", 3, 1⟩,
      "Number 010\nB.as:1:1: blocker [S1467] forged"⟩]
    diagnostics := []
    failures := []
    filesChecked := 1
    cancelled := false }
  fails := true

/-- **A forged line.** The check finds one violation and writes two lines, the second of which is what
would be written for another violation in another file. -/
theorem forgedRequest_forges :
    (forgedRequest.runWith forgedEnvironment forgedConfig).value = .ok forgedVerdict ∧
      forgedVerdict.result.violations.length = 1 ∧
      Text.linesOf (Format.write .compact forgedVerdict.result) =
        ["/w/x.ast.json:3:1: major [N1] Number 010",
          (⟨"S1467", "constructor-calls-dispatch-event", .blocker, ⟨"B.as", 1, 1⟩, "forged"⟩ :
            Violation).text] := by
  have hrun : (forgedRequest.runWith forgedEnvironment forgedConfig).value = .ok forgedVerdict := by
    decide +kernel
  exact ⟨hrun, rfl, by decide +kernel⟩

end Cli.CheckRequest

end TreeLint
