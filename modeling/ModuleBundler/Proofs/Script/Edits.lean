import ModuleBundler.Proofs.Script.Lowering

/-!
# What edits change, and what they leave

**Characters.**  A character that lies in no edit of a chain is found in what is woven, behind what
the edits in front of it have put there (`getElem?_woven`).  Characters that are left keep their
order (`movedTo_lt`), and every edit has its text in its place (`woven_split`).

**Syntax.**  The stretches that edits change are those that belong to the syntax of imports and
exports, and the uses of imported names (`Program.exists_edit_iff`).

**Effect.**  The edits of an item take effect unless what it exports begins in front of it, at a
decorator; then its edit is passed over (`Item.effective_iff`).  The edits that take effect are a
chain, and they alone make the difference between a script and its code (`compile_eq_woven`).  With
decorators in front of it, the word `export` stays in the code (`edits_decorated`).
-/

namespace ModuleBundler.Script

/-! ## Characters that are left -/

/-- Whether a position lies in none of some edits. -/
def Untouched (es : List Edit) (i : ℕ) : Prop := ∀ e ∈ es, i < e.span.start ∨ e.span.stop ≤ i

/-- **Where a character that is left comes to stand** in what edits weave from a position on. -/
def movedTo (first i : ℕ) : List Edit → ℕ
  | [] => i - first
  | e :: rest =>
      if i < e.span.start then i - first
      else e.span.start - first + e.text.toList.length + movedTo e.span.stop i rest

section Characters

variable {source : List Char} {first last i j : ℕ} {e : Edit} {es es' : List Edit}

lemma untouched_cons :
    Untouched (e :: es) i ↔ (i < e.span.start ∨ e.span.stop ≤ i) ∧ Untouched es i :=
  List.forall_mem_cons

lemma getElem?_stretch (hfirst : first ≤ i) (hlast : i < last) :
    (stretch source first last)[i - first]? = source[i]? := by
  rw [stretch, List.getElem?_take_of_lt (by omega), List.getElem?_drop, Nat.add_sub_cancel' hfirst]

lemma length_stretch (hlast : last ≤ source.length) :
    (stretch source first last).length = last - first := by
  rw [stretch, List.length_take, List.length_drop]
  omega

/-- **A character that is left** stands in what is woven. -/
theorem getElem?_woven (h : Chain first last es) (hfirst : first ≤ i) (hlast : i < last)
    (hi : i < source.length) (huntouched : Untouched es i) :
    (woven source first last es)[movedTo first i es]? = source[i]? := by
  induction es generalizing first with
  | nil => exact getElem?_stretch hfirst hlast
  | cons e rest ih =>
      obtain ⟨hown, hrest⟩ := untouched_cons.1 huntouched
      obtain ⟨hstart, heffective⟩ := Edit.fits_iff.1 h.1
      have hstop := Edit.start_le_stop heffective
      rw [woven, movedTo]
      by_cases hbefore : i < e.span.start
      · -- In front of the edit, the source still has the whole stretch up to the character.
        have hlt : i - first < (stretch source first e.span.start).length := by
          rw [stretch, List.length_take, List.length_drop]
          omega
        rw [if_pos hbefore, List.append_assoc, List.getElem?_append_left hlt,
          getElem?_stretch hfirst hbefore]
      · have hbehind : e.span.stop ≤ i := hown.resolve_left hbefore
        have hlength : (stretch source first e.span.start ++ e.text.toList).length
            = e.span.start - first + e.text.toList.length := by
          rw [List.length_append, length_stretch (by omega)]
        rw [if_neg hbefore, List.getElem?_append_right (by omega), hlength,
          Nat.add_sub_cancel_left, ih h.2 hbehind hrest]

/-- **Characters that are left** keep their order. -/
theorem movedTo_lt (h : Chain first last es) (hfirst : first ≤ i) (hlt : i < j)
    (hi : Untouched es i) (hj : Untouched es j) : movedTo first i es < movedTo first j es := by
  induction es generalizing first with
  | nil => exact Nat.sub_lt_sub_right hfirst hlt
  | cons e rest ih =>
      obtain ⟨howni, hresti⟩ := untouched_cons.1 hi
      obtain ⟨-, hrestj⟩ := untouched_cons.1 hj
      obtain ⟨hstart, heffective⟩ := Edit.fits_iff.1 h.1
      have hstop := Edit.start_le_stop heffective
      rw [movedTo, movedTo]
      by_cases hi' : i < e.span.start
      · rw [if_pos hi']
        split <;> omega
      · have hstopi : e.span.stop ≤ i := howni.resolve_left hi'
        have hj' : ¬ j < e.span.start := by omega
        rw [if_neg hi', if_neg hj']
        exact Nat.add_lt_add_left (ih h.2 hstopi hresti hrestj) _

lemma Chain.split (h : Chain first last (es ++ e :: es')) :
    Chain first e.span.start es ∧ e.effective = true ∧ Chain e.span.stop last es' := by
  induction es generalizing first with
  | nil =>
      obtain ⟨hstart, heffective⟩ := Edit.fits_iff.1 h.1
      exact ⟨hstart, heffective, h.2⟩
  | cons e' rest ih =>
      obtain ⟨hbefore, hown, hbehind⟩ := ih h.2
      exact ⟨⟨h.1, hbefore⟩, hown, hbehind⟩

/-- **An edit has its text in its place**, between what is woven in front of it and behind it. -/
theorem woven_split (h : Chain first last (es ++ e :: es')) :
    woven source first last (es ++ e :: es')
      = woven source first e.span.start es ++ e.text.toList
        ++ woven source e.span.stop last es' := by
  obtain ⟨hbefore, hown, hbehind⟩ := h.split
  have hrest : Chain e.span.start last (e :: es') := ⟨hown, hbehind⟩
  rw [woven_append hbefore hrest, woven, stretch_self, List.nil_append, List.append_assoc]

/-- The edits of a chain come one behind the other. -/
lemma Chain.pairwise_stop (h : Chain first last es) :
    es.Pairwise fun e e' => e.span.stop ≤ e'.span.start := by
  induction es generalizing first with
  | nil => exact .nil
  | cons e rest ih => exact .cons (fun e' he' => (h.2.bounds he').2.1) (ih h.2)

/-- **The effect of a chain** on a whole text. -/
lemma Chain.exists_splice_eq (h : Chain 0 last es) (source : List Char) :
    ∃ stop, source.length ≤ stop ∧ Chain 0 stop es
      ∧ splice 0 source es = woven source 0 stop es := by
  have hstop : Chain 0 (max last source.length) es := h.mono le_rfl (le_max_left _ _)
  refine ⟨max last source.length, le_max_right _ _, hstop, ?_⟩
  have hall := splice_append source hstop (List.forall_mem_nil _)
  rwa [List.append_nil, List.drop_zero, splice, List.drop_eq_nil_of_le (le_max_right _ _),
    List.append_nil] at hall

end Characters

/-! ## Syntax -/

/-- **A stretch of the syntax of imports and exports**: the whole of an item of which nothing is
    left, what stands in front of a declaration or value that is exported, and what stands behind
    the value of an assignment. -/
inductive Item.HasSyntax : Item → Span → Prop
  | importing (s : Span) (source : String) (bindings : List Binding) :
      HasSyntax (.importing s source bindings) s
  | reexport (s : Span) (source : String) (names : List Exposure) :
      HasSyntax (.reexport s source names) s
  | reexportAll (s : Span) (source : String) (outside : Option String) :
      HasSyntax (.reexportAll s source outside) s
  | exportNames (s : Span) (names : List Exposure) : HasSyntax (.exportNames s names) s
  | declaration (s : Span) (d : Node) : HasSyntax (.exportDeclaration s d) ⟨s.start, d.span.start⟩
  | value (s : Span) (v : Node) : HasSyntax (.exportDefault s v) ⟨s.start, v.span.start⟩
  | closing (s : Span) {v : Node} (h : v.declaredNames = []) :
      HasSyntax (.exportDefault s v) ⟨v.span.stop, s.stop⟩

/-- **The syntax of a script** that its body does without, the line at the beginning included. -/
inductive Program.HasSyntax (p : Program) : Span → Prop
  | hashbang {s : Span} (h : p.hashbang = some s) : HasSyntax p s
  | item {item : Item} {s : Span} (hitem : item ∈ p.items) (h : item.HasSyntax s) : HasSyntax p s

/-- The edit that closes an assignment lies on what stands behind the value. -/
lemma span_closingEdit {value : Span} {stop : ℕ} (h : value.stop ≤ stop) :
    (closingEdit value stop).span = ⟨value.stop, stop⟩ := by
  rw [closingEdit]
  split
  · rfl
  · next hge => rw [Edit.span, Nat.le_antisymm h (Nat.le_of_not_lt hge)]

/-- **The edits of an item** lie on its syntax. -/
lemma Item.exists_edit_iff {item : Item} (h : item.laidOut = true) {s : Span} :
    (∃ e ∈ item.edits, e.span = s) ↔ item.HasSyntax s := by
  constructor
  · rintro ⟨e, he, rfl⟩
    cases item with
    | exportDefault s v =>
        simp only [laidOut, Bool.and_eq_true, decide_eq_true_eq] at h
        rw [edits] at he
        split at he
        · next hempty =>
            rcases List.mem_pair.1 he with rfl | rfl
            · exact .value s v
            · rw [span_closingEdit h.2]
              exact .closing s (List.isEmpty_iff.1 hempty)
        · obtain rfl := List.mem_singleton.1 he
          exact .value s v
    | statement n => cases he
    | _ =>
        obtain rfl := List.mem_singleton.1 he
        constructor
  · intro hstretch
    cases hstretch with
    | value s v =>
        rw [edits]
        split
        · exact ⟨_, List.mem_cons_self, rfl⟩
        · exact ⟨_, List.mem_cons_self, rfl⟩
    | closing s hempty =>
        simp only [laidOut, Bool.and_eq_true, decide_eq_true_eq] at h
        rw [edits, if_pos (List.isEmpty_iff.2 hempty)]
        exact ⟨_, List.mem_cons_of_mem _ List.mem_cons_self, span_closingEdit h.2⟩
    | _ => exact ⟨_, List.mem_cons_self, rfl⟩

/-- **What a use of an import is read by**: the expression for the last import of its variable. -/
lemma Program.exists_access {p : Program} {u : Use} {v : Variable} :
    let r := Resolution.ofItems p.items
    let l := Linkage.ofItems r p.items
    (u, v) ∈ r.settled → v ∈ r.imports →
      ∃ (i : ℕ) (b : Binding) (value : String), r.imports[i]? = some v
        ∧ (∀ j, i < j → r.imports[j]? ≠ some v) ∧ (p.items.flatMap Item.bindings)[i]? = some b
        ∧ b.name = u.name ∧ l.Reads p.items i b value ∧ l.access? r v = some value := by
  intro r l hsettled hv
  obtain ⟨hlength, hnames⟩ := Resolution.imports_ofItems p.items
  have haccesses : l.accesses.length = r.imports.length :=
    (Linkage.length_upTo p.items).2.trans hlength.symm
  obtain ⟨i, hi, hlast, haccess⟩ := Linkage.access?_of_mem haccesses hv
  have hilt : i < (p.items.flatMap Item.bindings).length :=
    hlength ▸ (List.getElem?_eq_some_iff.1 hi).1
  obtain ⟨b, value, hb, hvalue, hreads⟩ := Linkage.reads_of_bindings r hilt
  obtain ⟨b', hb', hname⟩ := hnames u v i hsettled hi
  cases hb.symm.trans hb'
  exact ⟨i, b, value, hi, hlast, hb, hname, hreads, haccess.trans hvalue⟩

/-- **What a script's edits lie on**: its syntax, and the uses of what it imports. -/
lemma Program.exists_edit_iff {p : Program} (h : p.laidOut = true) {s : Span} :
    let r := Resolution.ofItems p.items
    (∃ e ∈ (Linkage.ofItems r p.items).edits r p, e.span = s)
      ↔ p.HasSyntax s ∨ ∃ u v, (u, v) ∈ r.settled ∧ v ∈ r.imports ∧ u.span = s := by
  intro r
  have hlaid := h
  rw [laidOut, Bool.and_eq_true] at hlaid
  constructor
  · rintro ⟨e, he, rfl⟩
    rcases Linkage.mem_edits.1 he with he | he
    · rcases List.mem_append.1 he with he | he
      · obtain ⟨s, hs, rfl⟩ := Option.map_eq_some_iff.1 (Option.mem_toList.1 he)
        exact .inl (.hashbang hs)
      · obtain ⟨item, hitem, he⟩ := List.mem_flatMap.1 he
        exact .inl (.item hitem ((Item.exists_edit_iff (laidOut_of_mem hlaid.2 hitem)).1
          ⟨e, he, rfl⟩))
    · obtain ⟨u, v, value, hsettled, hvalue, rfl⟩ := Linkage.mem_useEdits.1 he
      refine .inr ⟨u, v, hsettled, ?_, (Use.span_edit u value).symm⟩
      by_contra hv
      rw [Linkage.access?_eq_none hv] at hvalue
      cases hvalue
  · rintro (hstretch | ⟨u, v, hsettled, hv, rfl⟩)
    · cases hstretch with
      | hashbang hs =>
          refine ⟨.remove s, Linkage.mem_edits.2 (.inl (List.mem_append_left _ ?_)), rfl⟩
          rw [hs]
          exact List.mem_singleton_self _
      | item hitem hstretch =>
          obtain ⟨e, he, rfl⟩ := (Item.exists_edit_iff (laidOut_of_mem hlaid.2 hitem)).2 hstretch
          have hmem : e ∈ p.items.flatMap Item.edits := List.mem_flatMap.2 ⟨_, hitem, he⟩
          exact ⟨e, Linkage.mem_edits.2 (.inl (List.mem_append_right _ hmem)), rfl⟩
    · obtain ⟨-, -, value, -, -, -, -, -, haccess⟩ := exists_access hsettled hv
      exact ⟨u.edit value, Linkage.mem_edits.2 (.inr (Linkage.mem_useEdits.2
        ⟨u, v, value, hsettled, haccess, rfl⟩)), Use.span_edit u value⟩

/-! ## Effect -/

/-- Whether what an item exports begins in front of the item, at a decorator. -/
def Item.decorated : Item → Bool
  | .exportDeclaration s d => decide (d.span.start < s.start)
  | .exportDefault s v => decide (v.span.start < s.start)
  | _ => false

/-- The edit in front of what is exported takes effect if this begins behind it. -/
lemma effective_opening {start start' : ℕ} (hne : start ≠ start') (text : String) :
    (Edit.replace ⟨start, start'⟩ text).effective = true ↔ ¬ start' < start := by
  rw [Edit.effective_replace, decide_eq_true_eq]
  change start < start' ↔ _
  omega

/-- **The edits of an item take effect** unless it is decorated, and then none does. -/
lemma Item.effective_iff {item : Item} (h : item.laidOut = true)
    (hinside : item.beginsInside = false) {e : Edit} (he : e ∈ item.edits) :
    e.effective = true ↔ item.decorated = false := by
  cases item with
  | statement n => cases he
  | exportDeclaration s d =>
      simp only [laidOut, Bool.and_eq_true, decide_eq_true_eq] at h
      obtain rfl := List.mem_singleton.1 he
      rw [decorated, decide_eq_false_iff_not]
      exact effective_opening h.1.2 ""
  | exportDefault s v =>
      have hclosing := fun hdrop => (closing_bounds h (e := e) hdrop).1
      simp only [laidOut, Bool.and_eq_true, decide_eq_true_eq] at h
      rw [beginsInside] at hinside
      rw [decorated, decide_eq_false_iff_not]
      rw [edits] at he hclosing
      by_cases hempty : v.declaredNames.isEmpty = true
      · rw [hempty, Bool.true_and, decide_eq_false_iff_not] at hinside
        rw [if_pos hempty] at he hclosing
        refine iff_of_true ?_ hinside
        rcases List.mem_cons.1 he with rfl | he
        · exact (effective_opening h.1.2 _).2 hinside
        · exact hclosing he
      · rw [if_neg hempty] at he
        obtain rfl := List.mem_singleton.1 he
        exact effective_opening h.1.2 ""
  | _ =>
      obtain rfl := List.mem_singleton.1 he
      rw [Edit.remove, Edit.effective_replace]
      exact iff_of_true h rfl

namespace Program

variable {p : Program}

/-- **The edits that are passed over** are those of decorated items. -/
lemma passedOver_iff (h : p.laidOut = true) (hinside : p.items.any Item.beginsInside = false)
    {e : Edit} :
    let r := Resolution.ofItems p.items
    e ∈ (Linkage.ofItems r p.items).edits r p →
      (e.effective = false ↔ ∃ item ∈ p.items, item.decorated = true ∧ e ∈ item.edits) := by
  intro r he
  have hlaid := h
  rw [laidOut, Bool.and_eq_true] at hlaid
  have hitem {item : Item} (hitem : item ∈ p.items) (he : e ∈ item.edits) :
      e.effective = true ↔ item.decorated = false :=
    Item.effective_iff (laidOut_of_mem hlaid.2 hitem)
      (Bool.eq_false_iff.2 (List.any_eq_false.1 hinside item hitem)) he
  constructor
  · intro hnone
    rcases Linkage.mem_edits.1 he with he | he
    · rcases List.mem_append.1 he with he | he
      · rw [effective_hashbang h he] at hnone
        cases hnone
      · obtain ⟨item, hmem, he⟩ := List.mem_flatMap.1 he
        refine ⟨item, hmem, ?_, he⟩
        by_contra hdecorated
        rw [(hitem hmem he).2 (Bool.eq_false_iff.2 hdecorated)] at hnone
        cases hnone
    · rw [effective_useEdits h _ he] at hnone
      cases hnone
  · rintro ⟨item, hmem, hdecorated, he⟩
    rw [Bool.eq_false_iff]
    intro heffective
    rw [(hitem hmem he).1 heffective] at hdecorated
    cases hdecorated

/-- **The edits that take effect** are a chain, and make the text of a script that is lowered. -/
theorem exists_chain_edits (h : p.laidOut = true) (hinside : p.items.any Item.beginsInside = false)
    (source : List Char) :
    let r := Resolution.ofItems p.items
    let l := Linkage.ofItems r p.items
    let applied := (l.edits r p).filter Edit.effective
    ∃ last, source.length ≤ last ∧ Chain 0 last applied
      ∧ p.lower source = ⟨l.prelude ++ String.ofList (woven source 0 last applied), l.sources⟩ := by
  intro r l applied
  have hlaid := h
  rw [laidOut, Bool.and_eq_true] at hlaid
  obtain ⟨stop, hitems⟩ := exists_chain_ordered (l.reader r) hlaid.2 hinside
  have hchain : Chain 0 stop applied := by
    have hedits : applied = (p.hashbang.map Edit.remove).toList
        ++ p.items.flatMap (Item.ordered (l.reader r)) := filter_edits h hinside l
    rw [hedits]
    refine Chain.append ?_ hitems
    cases hs : p.hashbang with
    | none => exact Nat.zero_le _
    | some s =>
        have heffective : (Edit.remove s).effective = true :=
          effective_hashbang h (by rw [hs]; exact List.mem_singleton_self _)
        refine ⟨Edit.fits_iff.2 ⟨Nat.zero_le _, heffective⟩, ?_⟩
        rw [first, hs]
        exact le_rfl
  obtain ⟨last, hlast, hchain, htext⟩ := hchain.exists_splice_eq source
  refine ⟨last, hlast, hchain, ?_⟩
  rw [lower, splice_filter, htext]

end Program

/-- **What a script is compiled to.**  Take a script that is laid out well.  What its edits lie on
    is the syntax of its imports and exports and the uses of what it imports.  If one of its items
    cannot become an assignment, compiling it breaks down.  Otherwise the edits that are passed over
    are those of the items that have decorators in front of the word `export`, and all others take
    effect: none of them begins before the one in front of it ends, and what is compiled is the
    lines that link the script, and behind them the script with the texts of the edits in the place
    of their stretches.  Every other character is there, and in the order of the script. -/
theorem compile_eq_woven (id : ModuleId) (text : String) (p : Program)
    (hread : Program.read text.toList = .ok p) (h : p.laidOut = true) :
    let r := Resolution.ofItems p.items
    let l := Linkage.ofItems r p.items
    let applied := (l.edits r p).filter Edit.effective
    (∀ s, (∃ e ∈ l.edits r p, e.span = s)
        ↔ p.HasSyntax s ∨ ∃ u v, (u, v) ∈ r.settled ∧ v ∈ r.imports ∧ u.span = s)
      ∧ (p.items.any Item.beginsInside = true →
          compile id text = .error [.breakdown "assertion failed: start < end"])
      ∧ (p.items.any Item.beginsInside = false →
          (∀ e ∈ l.edits r p,
              e ∉ applied ↔ ∃ item ∈ p.items, item.decorated = true ∧ e ∈ item.edits)
            ∧ applied.Pairwise (fun e e' => e.span.stop ≤ e'.span.start)
            ∧ ∃ last, text.toList.length ≤ last
              ∧ compile id text
                = .ok ⟨l.prelude ++ String.ofList (woven text.toList 0 last applied), l.sources⟩
              ∧ ∀ i < text.toList.length, Untouched applied i →
                (woven text.toList 0 last applied)[movedTo 0 i applied]? = text.toList[i]?
                  ∧ ∀ j, i < j → Untouched applied j →
                    movedTo 0 i applied < movedTo 0 j applied) := by
  intro r l applied
  refine ⟨fun s => Program.exists_edit_iff h, fun hinside => ?_, fun hinside => ⟨?_, ?_, ?_⟩⟩
  · rw [compile, hread]
    exact if_pos hinside
  · intro e he
    have hmem : e ∉ applied ↔ e.effective = false := by
      rw [List.mem_filter, and_iff_right he, Bool.not_eq_true]
    exact hmem.trans (Program.passedOver_iff h hinside he)
  · obtain ⟨last, -, hchain, -⟩ := Program.exists_chain_edits h hinside text.toList
    exact hchain.pairwise_stop
  · obtain ⟨last, hlast, hchain, hlower⟩ := Program.exists_chain_edits h hinside text.toList
    refine ⟨last, hlast, ?_, fun i hi huntouched => ⟨?_, fun j hlt huntouched' => ?_⟩⟩
    · rw [compile, hread]
      exact (if_neg (Bool.eq_false_iff.1 hinside)).trans (congrArg Except.ok hlower)
    · exact getElem?_woven hchain (Nat.zero_le i) (hi.trans_le hlast) hi huntouched
    · exact movedTo_lt hchain (Nat.zero_le i) hlt huntouched huntouched'

/-- The source of a script that uses an import in what it exports. -/
def exportingText : String :=
  "import \x7bf\x7d from \"./a\"\nexport const x = f\nexport default f(x)"

/-- An import, a declaration and a value: no edit is passed over, and the first character of the
    declaration is left. -/
theorem compile_eq_woven_exporting :
    Program.read exportingText.toList = .ok exportingScript ∧ exportingScript.laidOut = true
      ∧ (let r := Resolution.ofItems exportingScript.items
        let l := Linkage.ofItems r exportingScript.items
        let applied := (l.edits r exportingScript).filter Edit.effective
        (∀ e ∈ l.edits r exportingScript, e ∈ applied)
          ∧ ∃ last, compile ⟨"/m.js"⟩ exportingText
              = .ok ⟨l.prelude ++ String.ofList (woven exportingText.toList 0 last applied),
                ["./a"]⟩
            ∧ (woven exportingText.toList 0 last applied)[movedTo 0 29 applied]? = some 'c') := by
  have hread : Program.read exportingText.toList = .ok exportingScript := by decide +kernel
  have hlaid : exportingScript.laidOut = true := by decide +kernel
  refine ⟨hread, hlaid, ?_⟩
  intro r l applied
  obtain ⟨-, -, hcompile⟩ := compile_eq_woven ⟨"/m.js"⟩ exportingText exportingScript hread hlaid
  obtain ⟨hpassed, -, last, -, hwoven, hleft⟩ := hcompile (by decide +kernel)
  have hplain : ∀ item ∈ exportingScript.items, item.decorated = false := by decide +kernel
  have huntouched : Untouched applied 29 := by
    have hall : ∀ e ∈ (exportingScript.hashbang.map Edit.remove).toList
        ++ exportingScript.items.flatMap Item.edits ++ l.useEdits r,
          29 < e.span.start ∨ e.span.stop ≤ 29 := by decide +kernel
    intro e he
    exact hall e (List.mem_append.2 (Linkage.mem_edits.1 (List.mem_filter.1 he).1))
  refine ⟨fun e he => ?_, last, hwoven, (hleft 29 (by decide) huntouched).1⟩
  by_contra hnone
  obtain ⟨item, hitem, hdecorated, -⟩ := (hpassed e he).1 hnone
  rw [hplain item hitem] at hdecorated
  cases hdecorated

/-- A class, exported behind a decorator. -/
def decoratedExport : Item :=
  .exportDeclaration ⟨5, 22⟩ (.node (.classDeclaration (some "K")) ⟨0, 22⟩
    [.node .other ⟨0, 4⟩ [.node (.use "dec") ⟨1, 4⟩ []], .node (.classBody none) ⟨12, 22⟩ []])

/-- **A decorator in front of an export.**  The stretch in front of the class would end before it
    begins, so its removal is passed over, and the word `export` stays in the code. -/
theorem edits_decorated :
    Program.read "@dec export class K \x7b\x7d".toList = .ok ⟨none, [decoratedExport]⟩
      ∧ (⟨none, [decoratedExport]⟩ : Program).laidOut = true
      ∧ (let r := Resolution.ofItems [decoratedExport]
        (Linkage.ofItems r [decoratedExport]).edits r ⟨none, [decoratedExport]⟩ = [.remove ⟨5, 0⟩]
          ∧ (Edit.remove ⟨5, 0⟩).effective = false)
      ∧ ∃ unit, compile ⟨"/m.js"⟩ "@dec export class K \x7b\x7d" = .ok unit
        ∧ unit.code = "\"use strict\";\n"
          ++ "Object.defineProperty(exports, \"__esModule\", \x7b value: true \x7d);\n"
          ++ "Object.defineProperty(exports, \"K\", \x7b enumerable: true, get: function () "
          ++ "\x7b return K; \x7d \x7d);\n"
          ++ "@dec export class K \x7b\x7d" := by
  have hread : Program.read "@dec export class K \x7b\x7d".toList
      = .ok ⟨none, [decoratedExport]⟩ := by decide +kernel
  refine ⟨hread, by decide +kernel, ⟨?_, by decide +kernel⟩,
    Program.lower "@dec export class K \x7b\x7d".toList ⟨none, [decoratedExport]⟩, ?_,
    by decide +kernel⟩
  · have hone : ((⟨none, [decoratedExport]⟩ : Program).hashbang.map Edit.remove).toList
        ++ [decoratedExport].flatMap Item.edits
        ++ (Linkage.ofItems (Resolution.ofItems [decoratedExport]) [decoratedExport]).useEdits
            (Resolution.ofItems [decoratedExport]) = [.remove ⟨5, 0⟩] := by decide +kernel
    rw [Linkage.edits, hone, List.mergeSort_singleton]
  · rw [compile, hread]
    rfl

end ModuleBundler.Script
