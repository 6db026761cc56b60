import ModuleBundler.Proofs.Script.References
import ModuleBundler.Proofs.Script.Weaving

/-!
# What a script is lowered to

The text behind the lines in front of a module is put together from the items of the script.

**Items.**  `Item.lowered` says what comes of an item.  Nothing comes of imports, of exports of
names and of exports of other modules; what comes of a declaration or a value that is exported is
itself, and a statement stays.  Inside, each use of an imported name gives way to the expression
that reads it, and all other characters stay.

**Gaps.**  What stands between two items, and behind the last one, stays (`assembled`), and nothing
is put there.  A statement begins with something new only if it begins with the use of an imported
name (`Node.head?_lowered`).  But then it may begin with a parenthesis, and a statement in front of
it that ends with its line, without a semicolon, is joined to it (`compile_joins`).

**Order.**  The edits of an item and those of the uses in it are a chain when they are taken in the
order of the script (`Item.ordered`), and sorting all edits of a script gives all these chains, one
behind the other (`Program.filter_edits`).

**What is left.**  The items that remain are statements, and declarations and values that are
exported, but no imports and no exports of names (`Program.Assembles`).  Where all items are
statements and no imported name is used in them, they are read back as they were.
-/

namespace ModuleBundler.Script

/-! ## Texts -/

/-- The expressions that read the imported names of a script. -/
def Linkage.reader (l : Linkage) (r : Resolution) (u : Use) : Option String :=
  (r.settled.lookup u).bind (l.access? r)

/-- The edits for uses of names that are read by expressions. -/
def editsOf (read : Use → Option String) (us : List Use) : List Edit :=
  us.filterMap fun u => (read u).map u.edit

/-- **What comes of a part of a script.** -/
def Node.lowered (source : List Char) (read : Use → Option String) (n : Node) : List Char :=
  woven source n.span.start n.span.stop (editsOf read n.uses)

/-- **What comes of an item.** -/
def Item.lowered (source : List Char) (read : Use → Option String) : Item → List Char
  | .exportDeclaration s d => d.lowered source read ++ stretch source d.span.stop s.stop
  | .exportDefault s v =>
      if v.declaredNames.isEmpty then
        "exports.default = ".toList ++ v.lowered source read ++ ";".toList
      else v.lowered source read ++ stretch source v.span.stop s.stop
  | .statement n => n.lowered source read
  | _ => []

/-- **The text of items** and of what stands between and behind them, from a position on. -/
def assembled (source : List Char) (read : Use → Option String) (first : ℕ) : List Item → List Char
  | [] => source.drop first
  | item :: rest =>
      stretch source first item.first ++ item.lowered source read
        ++ assembled source read item.span.stop rest

/-! ## Edits in the order of a script -/

/-- The edits that take effect in an item, in the order of the script: the one that opens it, those
    for the uses in it, and the one that closes it. -/
def Item.ordered (read : Use → Option String) (item : Item) : List Edit :=
  (item.edits.take 1).filter Edit.effective ++ editsOf read item.uses ++ item.edits.drop 1

/-- **Edits that weave a text** between two positions. -/
structure Weaves (source : List Char) (first last : ℕ) (es : List Edit) (text : List Char) :
    Prop where
  chain : Chain first last es
  text : woven source first last es = text

namespace Weaves

variable {source text text' : List Char} {first middle last : ℕ} {es es' : List Edit}

lemma none (source : List Char) (h : first ≤ last) :
    Weaves source first last [] (stretch source first last) :=
  ⟨h, rfl⟩

/-- Two stretches that meet are woven one behind the other. -/
lemma append (h : Weaves source first middle es text) (h' : Weaves source middle last es' text') :
    Weaves source first last (es ++ es') (text ++ text') :=
  ⟨h.chain.append h'.chain, by rw [woven_append h.chain h'.chain, h.text, h'.text]⟩

/-- What follows a stretch that stays. -/
lemma behind (hfirst : first ≤ middle) (h : Weaves source middle last es text) :
    Weaves source first last es (stretch source first middle ++ text) :=
  (none source hfirst).append h

/-- What a stretch that stays follows. -/
lemma before (h : Weaves source first middle es text) (hlast : middle ≤ last) :
    Weaves source first last es (text ++ stretch source middle last) := by
  simpa using h.append (none source hlast)

/-- An edit in the place of a stretch. -/
lemma replace (s : Span) (h : s.start < s.stop) (text : String) :
    Weaves source s.start s.stop [.replace s text] text.toList := by
  refine ⟨⟨Edit.fits_iff.2 ⟨le_rfl, ?_⟩, le_rfl⟩, ?_⟩
  · simp [h]
  · simp [woven, Edit.span, Edit.text]

/-- The edit that opens an item takes effect if its value begins behind it. -/
lemma opening (source : List Char) (start start' : ℕ) (text : String) :
    Weaves source (min start start') start'
      ([Edit.replace ⟨start, start'⟩ text].filter Edit.effective)
      (if start < start' then text.toList else []) := by
  by_cases h : start < start'
  · have heffective : (Edit.replace ⟨start, start'⟩ text).effective = true := by
      simp [h]
    rw [List.filter_cons_of_pos heffective, List.filter_nil, if_pos h, min_eq_left h.le]
    exact replace ⟨start, start'⟩ h text
  · have heffective : ¬ (Edit.replace ⟨start, start'⟩ text).effective = true := by
      simp [h]
    rw [List.filter_cons_of_neg heffective, List.filter_nil, if_neg h,
      min_eq_right (Nat.le_of_not_lt h)]
    simpa using none source (le_refl start')

/-- The edit that closes an assignment. -/
lemma closing (source : List Char) {value : Span} {stop : ℕ} (h : value.stop ≤ stop) :
    Weaves source value.stop stop [closingEdit value stop] ";".toList := by
  rw [closingEdit]
  split
  · next hlt => exact replace ⟨value.stop, stop⟩ hlt ";"
  · next hge =>
      obtain rfl : value.stop = stop := Nat.le_antisymm h (Nat.le_of_not_lt hge)
      refine ⟨⟨Edit.fits_iff.2 ⟨le_rfl, Edit.effective_insert _ _⟩, le_rfl⟩, ?_⟩
      simp [woven, Edit.span, Edit.text]

end Weaves

variable {source : List Char} {read : Use → Option String} {first last : ℕ}

lemma mem_editsOf {us : List Use} {e : Edit} (he : e ∈ editsOf read us) :
    ∃ u ∈ us, e.span = u.span := by
  obtain ⟨u, hu, hedit⟩ := List.mem_filterMap.1 he
  obtain ⟨value, -, rfl⟩ := Option.map_eq_some_iff.1 hedit
  exact ⟨u, hu, Use.span_edit u value⟩

/-- The edits for uses in a row are a chain. -/
lemma chain_editsOf {us : List Use} (h : Row first last (us.map Use.span)) :
    Chain first last (editsOf read us) := by
  induction us generalizing first with
  | nil => exact h
  | cons u rest ih =>
      obtain ⟨hfirst, hpos, hrest⟩ := h
      rw [editsOf, List.filterMap_cons]
      cases hread : read u with
      | none => exact (ih hrest).mono (hfirst.trans hpos.le) le_rfl
      | some value =>
          have heffective : (u.edit value).effective = true := by
            rw [Use.edit]
            cases u.manner <;> simp [hpos]
          refine ⟨Edit.fits_iff.2 ⟨?_, heffective⟩, ?_⟩
          · rwa [Use.span_edit]
          · rw [Use.span_edit]
            exact ih hrest

/-- **A node is woven** from its source and the edits of its uses. -/
lemma Node.weaves_uses (source : List Char) (read : Use → Option String) {n : Node}
    (h : n.laidOut = true) :
    Weaves source n.span.start n.span.stop (editsOf read n.uses) (n.lowered source read) :=
  ⟨chain_editsOf (row_uses.1 n h), rfl⟩

/-- **A part of a script begins as before** if it does not begin with the use of an imported
    name. -/
theorem Node.head?_lowered (source : List Char) (read : Use → Option String) {n : Node}
    (h : n.laidOut = true) (hpos : n.span.start < n.span.stop)
    (hfirst : ∀ u ∈ n.uses, u.span.start = n.span.start → read u = none)
    (hlength : n.span.start < source.length) :
    (n.lowered source read).head? = source[n.span.start]? := by
  have hbefore {last : ℕ} (hlast : n.span.start < last) :
      (stretch source n.span.start last).head? = source[n.span.start]? := by
    rw [stretch, List.head?_take, if_neg (Nat.sub_ne_zero_of_lt hlast), List.head?_drop]
  have hchain := (Node.weaves_uses source read h).chain
  rw [lowered]
  cases hedits : editsOf read n.uses with
  | nil => exact hbefore hpos
  | cons e rest =>
      -- The first edit is one for a use that is read, so it begins behind the first character.
      obtain ⟨u, hu, hedit⟩ := List.mem_filterMap.1
        (hedits ▸ List.mem_cons_self : e ∈ n.uses.filterMap _)
      obtain ⟨value, hvalue, rfl⟩ := Option.map_eq_some_iff.1 hedit
      have hbehind : n.span.start < u.span.start := by
        have hbounds := (hchain.bounds (hedits ▸ List.mem_cons_self)).2.1
        refine lt_of_le_of_ne (Use.span_edit u value ▸ hbounds) fun heq => ?_
        rw [hfirst u hu heq.symm] at hvalue
        cases hvalue
      rw [woven, Use.span_edit, List.append_assoc, List.head?_append, hbefore hbehind,
        List.getElem?_eq_getElem hlength, Option.some_or]

/-- **What comes of an item** is woven by its edits and those of the uses in it. -/
theorem Item.weaves_ordered (source : List Char) (read : Use → Option String) {item : Item}
    (h : item.laidOut = true) (hinside : item.beginsInside = false) :
    Weaves source item.first item.span.stop (item.ordered read) (item.lowered source read) := by
  -- An item that only takes a stretch away.
  have htaken (s : Span) (hs : s.start < s.stop) :
      Weaves source s.start s.stop
        ([Edit.remove s].filter Edit.effective ++ editsOf read [] ++ []) [] := by
    have hopening := Weaves.opening source s.start s.stop ""
    rw [min_eq_left hs.le, if_pos hs] at hopening
    simpa [editsOf, Edit.remove] using hopening
  cases item with
  | importing s => exact htaken s (of_decide_eq_true h)
  | reexport s => exact htaken s (of_decide_eq_true h)
  | reexportAll s => exact htaken s (of_decide_eq_true h)
  | exportNames s => exact htaken s (of_decide_eq_true h)
  | statement n =>
      have hall := Node.weaves_uses source read h
      simpa [ordered, edits, uses, toNode, Item.first, span, lowered] using hall
  | exportDeclaration s d =>
      simp only [laidOut, Bool.and_eq_true, decide_eq_true_eq] at h
      have hopening := Weaves.opening source s.start d.span.start ""
      have hall := (hopening.append (Node.weaves_uses source read h.1.1)).before h.2
      simpa [ordered, edits, uses, toNode, lowered, Item.first, span, Edit.remove] using hall
  | exportDefault s v =>
      simp only [laidOut, Bool.and_eq_true, decide_eq_true_eq] at h
      by_cases hnames : v.declaredNames.isEmpty = true
      · have hstart : s.start < v.span.start := by
          simp only [beginsInside, hnames, Bool.true_and, decide_eq_false_iff_not] at hinside
          omega
        have hopening := Weaves.opening source s.start v.span.start "exports.default = "
        rw [if_pos hstart] at hopening
        have hall := (hopening.append (Node.weaves_uses source read h.1.1)).append
          (Weaves.closing source h.2)
        rw [ordered, edits, lowered, if_pos hnames, if_pos hnames, uses, toNode, Node.uses_other]
        exact hall
      · have hopening := Weaves.opening source s.start v.span.start ""
        have hall := (hopening.append (Node.weaves_uses source read h.1.1)).before h.2
        rw [ordered, edits, lowered, if_neg hnames, if_neg hnames, uses, toNode, Node.uses_other]
        simpa [Item.first, span, Edit.remove] using hall

/-! ## All items -/

/-- The edits of items that follow one another are a chain. -/
lemma exists_chain_ordered (read : Use → Option String) {items : List Item}
    (h : itemsLaidOut first items = true)
    (hinside : items.any Item.beginsInside = false) :
    ∃ last, Chain first last (items.flatMap (Item.ordered read)) := by
  induction items generalizing first with
  | nil => exact ⟨first, le_rfl⟩
  | cons item rest ih =>
      obtain ⟨hfirst, hitem, hrest⟩ := itemsLaidOut_cons.1 h
      rw [List.any_cons, Bool.or_eq_false_iff] at hinside
      obtain ⟨last, hlast⟩ := ih hrest hinside.2
      have hown := (Item.weaves_ordered [] read hitem hinside.1).chain
      rw [List.flatMap_cons]
      exact ⟨last, (hown.mono hfirst le_rfl).append hlast⟩

/-- **The effect of the edits of all items** is the text that is put together from them. -/
theorem splice_ordered (source : List Char) (read : Use → Option String) {items : List Item}
    (h : itemsLaidOut first items = true) (hinside : items.any Item.beginsInside = false) :
    splice first (source.drop first) (items.flatMap (Item.ordered read))
      = assembled source read first items := by
  induction items generalizing first with
  | nil => rfl
  | cons item rest ih =>
      obtain ⟨hfirst, hitem, hrest⟩ := itemsLaidOut_cons.1 h
      rw [List.any_cons, Bool.or_eq_false_iff] at hinside
      obtain ⟨last, hlast⟩ := exists_chain_ordered read hrest hinside.2
      have hown := (Item.weaves_ordered source read hitem hinside.1).behind hfirst
      rw [List.flatMap_cons, splice_append source hown.chain fun e he => (hlast.bounds he).2.1,
        hown.text, ih hrest hinside.2, assembled]

/-- At one place there are no edits of both kinds if one kind is in front of the other. -/
lemma filter_append_comm (es es' : List Edit)
    (h : ∀ e ∈ es, ∀ e' ∈ es', e.span.start < e'.span.start) (k : ℕ) :
    es.filter (Edit.startsAt k) ++ es'.filter (Edit.startsAt k)
      = es'.filter (Edit.startsAt k) ++ es.filter (Edit.startsAt k) := by
  cases hes : es.filter (Edit.startsAt k) with
  | nil => rw [List.nil_append, List.append_nil]
  | cons e _ =>
      obtain ⟨he, hk⟩ := List.mem_filter.1 (hes ▸ List.mem_cons_self : e ∈ es.filter _)
      have hnone : es'.filter (Edit.startsAt k) = [] := by
        rw [List.filter_eq_nil_iff]
        intro e' he' hk'
        have hlt := h e he e' he'
        rw [of_decide_eq_true hk, of_decide_eq_true hk'] at hlt
        exact lt_irrefl k hlt
      rw [hnone, List.nil_append, List.append_nil]

/-- The edit that closes an item takes effect behind the uses in it. -/
lemma Item.closing_bounds {item : Item} (h : item.laidOut = true) {e : Edit}
    (he : e ∈ item.edits.drop 1) :
    e.effective = true ∧ ∀ u ∈ item.uses, u.span.start < e.span.start := by
  cases item with
  | exportDefault s v =>
      simp only [laidOut, Bool.and_eq_true, decide_eq_true_eq] at h
      rw [edits] at he
      split at he
      · obtain rfl := List.mem_singleton.1 he
        refine ⟨((Weaves.closing [] h.2).chain.bounds (List.mem_singleton_self _)).1,
          fun u hu => ?_⟩
        have huses : u ∈ v.uses := by simpa [uses, toNode] using hu
        obtain ⟨-, hpos, hstop⟩ := (ModuleBundler.Script.row_uses.1 v h.1.1).bounds
          (List.mem_map_of_mem huses)
        rw [start_closingEdit]
        exact hpos.trans_le hstop
      · cases he
  | _ => cases he

/-- At one place, an item has its own edits in front of those for its uses. -/
lemma Item.filter_ordered {item : Item} (h : item.laidOut = true) (k : ℕ) :
    (item.ordered read).filter (Edit.startsAt k)
      = (item.edits.filter Edit.effective).filter (Edit.startsAt k)
        ++ (editsOf read item.uses).filter (Edit.startsAt k) := by
  have hclosing : (item.edits.drop 1).filter Edit.effective = item.edits.drop 1 :=
    List.filter_eq_self.2 fun e he => (item.closing_bounds h he).1
  have hcomm := filter_append_comm (editsOf read item.uses) (item.edits.drop 1)
    (fun e he e' he' => by
      obtain ⟨u, hu, hspan⟩ := mem_editsOf he
      exact hspan ▸ (item.closing_bounds h he').2 u hu) k
  have hedits : item.edits.filter Edit.effective
      = (item.edits.take 1).filter Edit.effective ++ item.edits.drop 1 := by
    rw [← hclosing, ← List.filter_append, List.take_append_drop]
  rw [ordered, hedits, List.filter_append, List.filter_append, List.filter_append,
    List.append_assoc, hcomm, List.append_assoc]

/-- At one place, all items have their own edits in front of those for their uses. -/
lemma filter_flatMap_ordered {items : List Item} (h : itemsLaidOut first items = true) (k : ℕ) :
    (items.flatMap (Item.ordered read)).filter (Edit.startsAt k)
      = ((items.flatMap Item.edits).filter Edit.effective).filter (Edit.startsAt k)
        ++ (editsOf read (items.flatMap Item.uses)).filter (Edit.startsAt k) := by
  induction items generalizing first with
  | nil => rfl
  | cons item rest ih =>
      obtain ⟨hfirst, hitem, hrest⟩ := itemsLaidOut_cons.1 h
      have hcomm := filter_append_comm (editsOf read item.uses)
        ((rest.flatMap Item.edits).filter Edit.effective)
        (fun e he e' he' => by
          obtain ⟨u, hu, hspan⟩ := mem_editsOf he
          obtain ⟨-, hpos, hstop⟩ := (item.row_uses hitem).bounds (List.mem_map_of_mem hu)
          have hbehind := le_start_of_mem_edits hrest (List.mem_of_mem_filter he')
          exact hspan ▸ (hpos.trans_le hstop).trans_le hbehind) k
      have huses : editsOf read (item.uses ++ rest.flatMap Item.uses)
          = editsOf read item.uses ++ editsOf read (rest.flatMap Item.uses) :=
        List.filterMap_append
      rw [List.flatMap_cons, List.flatMap_cons, List.flatMap_cons, huses]
      simp only [List.filter_append]
      rw [item.filter_ordered hitem, ih hrest, ← List.append_assoc,
        List.append_assoc (List.filter (Edit.startsAt k) (item.edits.filter _)), hcomm]
      simp only [List.append_assoc]

/-! ## Whole scripts -/

/-- The first entry of a key counts, so each one does if no key comes twice. -/
lemma lookup_of_mem {α β : Type} [BEq α] [LawfulBEq α] {entries : List (α × β)} {entry : α × β}
    (hnodup : (entries.map Prod.fst).Nodup) (hmem : entry ∈ entries) :
    entries.lookup entry.1 = some entry.2 := by
  obtain ⟨before, after, rfl⟩ := List.append_of_mem hmem
  refine List.lookup_eq_some_iff.2 ⟨before, after, rfl, fun other hother => ?_⟩
  rw [List.map_append, List.nodup_append] at hnodup
  rw [bne_iff_ne]
  exact (hnodup.2.2 _ (List.mem_map_of_mem hother) entry.1 (by simp)).symm

namespace Program

variable {p : Program}

/-- The uses of a script that is laid out well begin one behind the other. -/
lemma pairwise_start (h : p.laidOut = true) :
    p.uses.Pairwise fun u u' => u.span.start < u'.span.start := by
  rw [laidOut, Bool.and_eq_true] at h
  obtain ⟨last, hrow⟩ := exists_row_uses h.2
  refine (List.pairwise_map.1 hrow.pairwise).imp_of_mem fun hu _ hstop => ?_
  exact (hrow.bounds (List.mem_map_of_mem hu)).2.1.trans_le hstop

/-- No use of a script is settled twice, so each is read as what it is settled to. -/
lemma perm_useEdits (h : p.laidOut = true) (l : Linkage) :
    let r := Resolution.ofItems p.items
    (l.useEdits r).Perm (editsOf (l.reader r) p.uses) := by
  intro r
  obtain ⟨undeclared, hsettled, -⟩ := Resolution.settled_ofItems p.items
  have hnodup : (r.settled.map Prod.fst ++ undeclared).Nodup :=
    hsettled.nodup_iff.2 ((pairwise_start h).imp fun hlt heq => absurd (heq ▸ hlt) (lt_irrefl _))
  have huseEdits : l.useEdits r = editsOf (l.reader r) (r.settled.map Prod.fst) := by
    rw [Linkage.useEdits, editsOf, List.filterMap_map]
    refine List.filterMap_congr fun entry hentry => ?_
    have hlookup := lookup_of_mem (List.nodup_append.1 hnodup).1 hentry
    simp [Linkage.reader, hlookup]
  have hnone : editsOf (l.reader r) undeclared = [] := by
    rw [editsOf, List.filterMap_eq_nil_iff]
    intro u hu
    have hlookup : r.settled.lookup u = none := by
      rw [List.lookup_eq_none_iff]
      intro entry hentry
      rw [bne_iff_ne]
      rintro rfl
      exact (List.nodup_append.1 hnodup).2.2 _ (List.mem_map_of_mem hentry) _ hu rfl
    rw [Linkage.reader, hlookup]
    rfl
  have hall := hsettled.filterMap fun u => (l.reader r u).map u.edit
  rw [List.filterMap_append] at hall
  change (editsOf _ _ ++ editsOf _ _).Perm (editsOf _ _) at hall
  rwa [hnone, List.append_nil, ← huseEdits] at hall

/-- At one place there is at most one edit for a use. -/
lemma filter_start_useEdits (h : p.laidOut = true) (l : Linkage) (k : ℕ) :
    let r := Resolution.ofItems p.items
    (l.useEdits r).filter (Edit.startsAt k)
      = (editsOf (l.reader r) p.uses).filter (Edit.startsAt k) := by
  intro r
  have hperm := (perm_useEdits h l).filter (Edit.startsAt k)
  have hpairwise :
      (editsOf (l.reader r) p.uses).Pairwise fun e e' => e.span.start < e'.span.start := by
    refine List.pairwise_filterMap.2 ((pairwise_start h).imp fun hlt e he e' he' => ?_)
    obtain ⟨value, -, rfl⟩ := Option.map_eq_some_iff.1 he
    obtain ⟨value', -, rfl⟩ := Option.map_eq_some_iff.1 he'
    rwa [Use.span_edit, Use.span_edit]
  have hstart : ∀ e ∈ (editsOf (l.reader r) p.uses).filter (Edit.startsAt k), e.span.start = k :=
    fun e he => of_decide_eq_true (List.mem_filter.1 he).2
  have hone := hpairwise.filter (Edit.startsAt k)
  match hfilter : (editsOf (l.reader r) p.uses).filter (Edit.startsAt k) with
  | [] => exact (hfilter ▸ hperm).eq_nil
  | [e] => exact List.perm_singleton.1 (hfilter ▸ hperm)
  | e :: e' :: _ =>
      rw [hfilter] at hstart hone
      have hlt := (List.pairwise_cons.1 hone).1 e' (by simp)
      rw [hstart e (by simp), hstart e' (by simp)] at hlt
      exact absurd hlt (lt_irrefl k)

/-- The edit for the line at the beginning takes effect. -/
lemma effective_hashbang (h : p.laidOut = true) {e : Edit}
    (he : e ∈ (p.hashbang.map Edit.remove).toList) : e.effective = true := by
  rw [laidOut, Bool.and_eq_true] at h
  obtain ⟨s, hs, rfl⟩ := Option.map_eq_some_iff.1 (Option.mem_toList.1 he)
  have hline := h.1
  rw [hs, Option.all_some] at hline
  rwa [Edit.remove, Edit.effective_replace]

/-- So do those for uses. -/
lemma effective_useEdits (h : p.laidOut = true) (l : Linkage) {e : Edit}
    (he : e ∈ l.useEdits (Resolution.ofItems p.items)) : e.effective = true := by
  have hmem := (perm_useEdits h l).mem_iff.1 he
  rw [laidOut, Bool.and_eq_true] at h
  obtain ⟨last, hrow⟩ := exists_row_uses h.2
  exact ((chain_editsOf hrow).bounds hmem).1

/-- **The edits of a script that take effect** are those of its items, in the order of the
    script. -/
theorem filter_edits (h : p.laidOut = true) (hinside : p.items.any Item.beginsInside = false)
    (l : Linkage) :
    let r := Resolution.ofItems p.items
    (l.edits r p).filter Edit.effective
      = (p.hashbang.map Edit.remove).toList ++ p.items.flatMap (Item.ordered (l.reader r)) := by
  intro r
  have hlaid := h
  rw [laidOut, Bool.and_eq_true] at hlaid
  obtain ⟨hline, hitems⟩ := hlaid
  obtain ⟨last, hchain⟩ := exists_chain_ordered (l.reader r) hitems hinside
  have heffective : (p.hashbang.map Edit.remove).toList.filter Edit.effective
      = (p.hashbang.map Edit.remove).toList :=
    List.filter_eq_self.2 fun _ => effective_hashbang h
  have huses : (l.useEdits r).filter Edit.effective = l.useEdits r :=
    List.filter_eq_self.2 fun _ => effective_useEdits h l
  refine eq_of_filter_start ?_ ?_ fun k => ?_
  · exact (List.pairwise_mergeSort Edit.upTo_trans Edit.upTo_total _).filter _
  · rw [List.pairwise_append]
    refine ⟨?_, hchain.pairwise, fun e he e' he' => decide_eq_true ?_⟩
    · cases p.hashbang <;> simp
    · obtain ⟨s, hs, rfl⟩ := Option.map_eq_some_iff.1 (Option.mem_toList.1 he)
      rw [hs, Option.all_some, decide_eq_true_eq] at hline
      have hfirst := (hchain.bounds he').2.1
      rw [first, hs] at hfirst
      exact hline.le.trans hfirst
  · have hsorted : (l.edits r p).filter (Edit.startsAt k)
        = ((p.hashbang.map Edit.remove).toList ++ p.items.flatMap Item.edits
            ++ l.useEdits r).filter (Edit.startsAt k) := filter_mergeSort _ k
    rw [List.filter_comm, hsorted, List.filter_comm]
    simp only [List.filter_append]
    rw [heffective, huses, filter_start_useEdits h l k, filter_flatMap_ordered hitems,
      List.append_assoc, uses]

/-- **The text of a script that is lowered.** -/
theorem splice_edits (h : p.laidOut = true) (hinside : p.items.any Item.beginsInside = false)
    (hline : ∀ s ∈ p.hashbang, s.start = 0) (source : List Char) (l : Linkage) :
    let r := Resolution.ofItems p.items
    splice 0 source (l.edits r p) = assembled source (l.reader r) p.first p.items := by
  intro r
  have hlaid := h
  rw [laidOut, Bool.and_eq_true] at hlaid
  obtain ⟨hpos, hitems⟩ := hlaid
  have htext := splice_ordered source (l.reader r) hitems hinside
  rw [splice_filter, filter_edits h hinside l, ← htext, first]
  cases hs : p.hashbang with
  | none => rfl
  | some s =>
      rw [hs, Option.all_some, decide_eq_true_eq] at hpos
      obtain ⟨last, hchain⟩ := exists_chain_ordered (l.reader r) hitems hinside
      rw [first, hs] at hchain
      have htaken : Weaves source s.start s.stop [Edit.remove s] [] := Weaves.replace s hpos ""
      have hall := splice_append source htaken.chain fun e he => (hchain.bounds he).2.1
      rwa [htaken.text, hline s hs, List.drop_zero] at hall

/-- The line in front of a script that was read begins where the script does. -/
lemma hashbang_of_read {source : List Char} (hread : Program.read source = .ok p) :
    p.hashbang = (Lexer.hashbangLength? source).map fun n => ⟨0, n⟩ := by
  rw [Program.read] at hread
  split at hread
  · cases hread
  · split at hread
    · cases hread
    · split at hread
      · cases hread
      · obtain rfl := Except.ok.inj hread
        rfl

/-- **What a script is lowered to.** -/
theorem lower_eq {source : List Char} (hread : Program.read source = .ok p) (h : p.laidOut = true)
    (hinside : p.items.any Item.beginsInside = false) :
    let r := Resolution.ofItems p.items
    let l := Linkage.ofItems r p.items
    p.lower source
      = ⟨l.prelude ++ String.ofList (assembled source (l.reader r) p.first p.items),
          l.sources⟩ := by
  intro r l
  have hline : ∀ s ∈ p.hashbang, s.start = 0 := by
    intro s hs
    rw [hashbang_of_read hread] at hs
    obtain ⟨n, -, rfl⟩ := Option.map_eq_some_iff.1 hs
    rfl
  rw [lower, splice_edits h hinside hline source l]

end Program

/-! ## What is left of a script -/

/-- Whether a statement comes of an item. -/
def Item.remains : Item → Bool
  | .exportDeclaration _ _ => true
  | .exportDefault _ _ => true
  | .statement _ => true
  | _ => false

/-- Nothing comes of items that ask for another module, and of exports of names. -/
lemma Item.remains_iff {item : Item} :
    item.remains = true ↔ item.source? = none ∧ ∀ s names, item ≠ .exportNames s names := by
  cases item <;> simp [remains, source?]

/-- **The items of a script that remain**, in their order. -/
def Program.remaining (p : Program) : List Item := p.items.filter Item.remains

/-- **What stands outside of items**, from a position on: in front of each of them, and behind the
    last one. -/
def outside (source : List Char) (first : ℕ) : List Item → List Char
  | [] => source.drop first
  | item :: rest => stretch source first item.first ++ outside source item.span.stop rest

lemma Item.lowered_eq_nil (source : List Char) (read : Use → Option String) {item : Item}
    (h : item.remains = false) : item.lowered source read = [] := by
  cases item with
  | exportDeclaration _ _ => cases h
  | exportDefault _ _ => cases h
  | statement _ => cases h
  | _ => rfl

/-- **The text of items** is made of the items that remain, with gaps in front of them, and all gaps
    together are what stands outside of the items. -/
theorem exists_gaps (source : List Char) (read : Use → Option String) (first : ℕ)
    (items : List Item) :
    ∃ (gaps : List (List Char)) (last : List Char),
      gaps.length = (items.filter Item.remains).length
      ∧ gaps.flatten ++ last = outside source first items
      ∧ assembled source read first items
        = (gaps.zip (items.filter Item.remains)).flatMap (fun e => e.1 ++ e.2.lowered source read)
            ++ last := by
  induction items generalizing first with
  | nil => exact ⟨[], source.drop first, rfl, rfl, rfl⟩
  | cons item rest ih =>
      obtain ⟨gaps, last, hlength, houtside, htext⟩ := ih item.span.stop
      rw [outside, assembled, htext, ← houtside]
      cases hremains : item.remains with
      | true =>
          rw [List.filter_cons_of_pos hremains]
          refine ⟨stretch source first item.first :: gaps, last, ?_, ?_, ?_⟩
          · rw [List.length_cons, List.length_cons, hlength]
          · rw [List.flatten_cons, List.append_assoc]
          · simp only [List.zip_cons_cons, List.flatMap_cons, List.append_assoc]
      | false =>
          rw [List.filter_cons_of_neg (Bool.eq_false_iff.1 hremains),
            Item.lowered_eq_nil source read hremains, List.append_nil]
          -- The gap in front of the item becomes a part of the next one.
          cases gaps with
          | nil =>
              rw [← hlength]
              exact ⟨[], stretch source first item.first ++ last, rfl, rfl, rfl⟩
          | cons gap gaps =>
              refine ⟨(stretch source first item.first ++ gap) :: gaps, last, hlength, ?_, ?_⟩
              · simp only [List.flatten_cons, List.append_assoc]
              · cases hitems : rest.filter Item.remains with
                | nil =>
                    rw [hitems] at hlength
                    cases hlength
                | cons next others =>
                    simp only [List.zip_cons_cons, List.flatMap_cons, List.append_assoc]

/-- A plain statement in which no imported name is used. -/
def Item.Untouched (read : Use → Option String) (item : Item) : Prop :=
  ∃ n, item = .statement n ∧ ∀ u ∈ n.uses, read u = none

/-- Statements in which no imported name is used stay, with all that stands between them. -/
lemma assembled_eq_drop (source : List Char) {read : Use → Option String} {first : ℕ}
    {items : List Item} (h : itemsLaidOut first items = true)
    (huntouched : ∀ item ∈ items, item.Untouched read) :
    assembled source read first items = source.drop first := by
  induction items generalizing first with
  | nil => rfl
  | cons item rest ih =>
      obtain ⟨hfirst, hitem, hrest⟩ := itemsLaidOut_cons.1 h
      obtain ⟨n, rfl, hunread⟩ := huntouched item List.mem_cons_self
      have hedits : editsOf read n.uses = [] :=
        List.filterMap_eq_nil_iff.2 fun u hu => by rw [hunread u hu, Option.map_none]
      have hle : n.span.start ≤ n.span.stop := le_of_laidOut.1 n hitem
      have hrest := ih hrest fun item hitem => huntouched item (List.mem_cons_of_mem _ hitem)
      calc assembled source read first (.statement n :: rest)
          = stretch source first n.span.start ++ stretch source n.span.start n.span.stop
              ++ source.drop n.span.stop := by
            rw [assembled, hrest, Item.lowered, Node.lowered, hedits]
            rfl
        _ = source.drop first := by
            have hstart : first ≤ n.span.start := hfirst
            rw [stretch_append hstart hle, stretch_append_drop (Nat.le_trans hstart hle)]

/-- **What a script is put together to**, behind the lines in front of it. -/
structure Program.Assembles (p : Program) (source : List Char) (read : Use → Option String)
    (body : List Char) : Prop where
  /-- What comes of the items that remain, in their order, and what stands outside of the items. -/
  pieces : ∃ (gaps : List (List Char)) (last : List Char), gaps.length = p.remaining.length
    ∧ gaps.flatten ++ last = outside source p.first p.items
    ∧ body = (gaps.zip p.remaining).flatMap (fun e => e.1 ++ e.2.lowered source read) ++ last
  /-- No import is left, no export of another module, and no export of names. -/
  mem_remaining_iff : ∀ item, item ∈ p.remaining
    ↔ item ∈ p.items ∧ item.source? = none ∧ ∀ s names, item ≠ .exportNames s names
  /-- A statement begins as before if it does not begin with the use of an imported name. -/
  begins : ∀ n, .statement n ∈ p.items → n.span.start < n.span.stop →
    n.span.start < source.length → (∀ u ∈ n.uses, u.span.start = n.span.start → read u = none) →
      (n.lowered source read).head? = source[n.span.start]?
  /-- The items are read back if they are statements in which no imported name is used. -/
  read_back : p.hashbang = none → (∀ item ∈ p.items, item.Untouched read) →
    Program.read body = .ok p

/-- **What is assembled** of a program that was read and is laid out. -/
lemma Program.assembles {source : List Char} {p : Program} (hread : Program.read source = .ok p)
    (h : p.laidOut = true) (read : Use → Option String) :
    p.Assembles source read (assembled source read p.first p.items) := by
  rw [Program.laidOut, Bool.and_eq_true] at h
  refine ⟨exists_gaps source read p.first p.items, fun item => ?_, fun n hn hpos hlength hfirst =>
    Node.head?_lowered source _ (laidOut_of_mem h.2 hn) hpos hfirst hlength,
    fun hline huntouched => ?_⟩
  · rw [remaining, List.mem_filter, Item.remains_iff]
  · rw [assembled_eq_drop source h.2 huntouched, first, hline]
    exact hread

/-- **What a script is compiled to.**  Take a script that is laid out well.  Compiling it breaks
    down if one of its items is a default export that cannot become an assignment.  Otherwise the
    lines that link it come first, and behind them comes what the items become, in their order, with
    all that stands between them.  Nothing comes of an import, of an export of names and of an
    export of another module; a declaration loses the word `export`, unless decorators stand in
    front of it; and a default export without a name becomes an assignment.  Inside, only the uses
    of imported names change, so a statement begins as before if it does not begin with such a use;
    and where there is nothing but statements without such uses, they are read back as they were. -/
theorem compile_eq_assembled (id : ModuleId) (text : String) (p : Program)
    (hread : Program.read text.toList = .ok p) (h : p.laidOut = true) :
    let r := Resolution.ofItems p.items
    let l := Linkage.ofItems r p.items
    let body := assembled text.toList (l.reader r) p.first p.items
    (compile id text
      = if p.items.any Item.beginsInside then .error [.breakdown "assertion failed: start < end"]
        else .ok ⟨l.prelude ++ String.ofList body, l.sources⟩)
      ∧ p.Assembles text.toList (l.reader r) body := by
  intro r l body
  refine ⟨?_, Program.assembles hread h (l.reader r)⟩
  rw [compile, hread]
  by_cases hinside : p.items.any Item.beginsInside = true
  · exact (if_pos hinside).trans (if_pos hinside).symm
  · have hlower := Program.lower_eq hread h (Bool.eq_false_of_not_eq_true hinside)
    refine (if_neg hinside).trans (.trans ?_ (if_neg hinside).symm)
    exact congrArg Except.ok hlower

/-- An import, a declaration that is exported, and a value that is. -/
def exportingScript : Program :=
  ⟨none, [.importing ⟨0, 21⟩ "./a" [⟨"f", .named "f"⟩],
    .exportDeclaration ⟨22, 40⟩ (.node (.declaration false) ⟨29, 40⟩
      [.node .declarator ⟨35, 40⟩ [.node (.binder "x") ⟨35, 36⟩ [], .node (.use "f") ⟨39, 40⟩ []]]),
    .exportDefault ⟨41, 60⟩ (.node .call ⟨56, 60⟩
      [.node (.use "f") ⟨56, 57⟩ [], .node (.use "x") ⟨58, 59⟩ []])]⟩

/-- The import is gone, the declaration has lost a word, and the value is assigned. -/
theorem compile_eq_assembled_exporting :
    Program.read "import \x7bf\x7d from \"./a\"\nexport const x = f\nexport default f(x)".toList
        = .ok exportingScript
      ∧ exportingScript.laidOut = true
      ∧ ∃ unit, compile ⟨"/m.js"⟩
          "import \x7bf\x7d from \"./a\"\nexport const x = f\nexport default f(x)" = .ok unit
        ∧ unit.code = "\"use strict\";\n"
          ++ "Object.defineProperty(exports, \"__esModule\", \x7b value: true \x7d);\n"
          ++ "Object.defineProperty(exports, \"x\", \x7b enumerable: true, get: function () "
          ++ "\x7b return x; \x7d \x7d);\n"
          ++ "var __a = require(\"./a\");\n"
          ++ "\nconst x = __a.f\nexports.default = (0, __a.f)(x);"
        ∧ unit.imports = ["./a"] := by
  have hlaid : exportingScript.laidOut = true := by decide +kernel
  have hread : Program.read
      "import \x7bf\x7d from \"./a\"\nexport const x = f\nexport default f(x)".toList
        = .ok exportingScript := by
    decide +kernel
  have hcompile := (compile_eq_assembled ⟨"/m.js"⟩ _ _ hread hlaid).1
  refine ⟨hread, hlaid, _, hcompile.trans (if_neg ?_), ?_, ?_⟩
  · decide +kernel
  · decide +kernel
  · decide +kernel

/-- The source of `joinedScript`. -/
def joinedText : String := "import \x7b f \x7d from \"./a\";\nconst x = 1\nf();"

/-- A declaration that ends with its line, and a call of what is imported. -/
def joinedScript : Program :=
  ⟨none, [.importing ⟨0, 24⟩ "./a" [⟨"f", .named "f"⟩],
    .statement (.node (.declaration false) ⟨25, 36⟩
      [.node .declarator ⟨31, 36⟩ [.node (.binder "x") ⟨31, 32⟩ [], .node .other ⟨35, 36⟩ []]]),
    .statement (.node .call ⟨37, 40⟩ [.node (.use "f") ⟨37, 38⟩ []])]⟩

/-- What `joinedScript` is compiled to. -/
def joinedCode : String :=
  "\"use strict\";\n"
    ++ "Object.defineProperty(exports, \"__esModule\", \x7b value: true \x7d);\n"
    ++ "var __a = require(\"./a\");\n"
    ++ "\nconst x = 1\n(0, __a.f)();"

/-- The declaration of what a call of the number one gives. -/
def joinedStatement : Node :=
  .node (.declaration false) ⟨104, 128⟩
    [.node .declarator ⟨110, 128⟩ [.node (.binder "x") ⟨110, 111⟩ [],
      .node .call ⟨114, 128⟩ [.node .call ⟨114, 126⟩ [.node .other ⟨114, 115⟩ [],
        .node .other ⟨117, 118⟩ [], .node .member ⟨120, 125⟩ [.node (.use "__a") ⟨120, 123⟩ []]]]]]

/-- **Two statements are joined.**  The lines in front are three statements, and of the items two
    remain.  But what the script is compiled to is read as four statements, the last of which is
    made of both items, as the call begins with a parenthesis now. -/
theorem compile_joins :
    Program.read joinedText.toList = .ok joinedScript ∧ joinedScript.laidOut = true
      ∧ (Linkage.ofItems (Resolution.ofItems joinedScript.items) joinedScript.items).lines.length
        = 3
      ∧ (joinedScript.items.filter Item.remains).length = 2
      ∧ compile ⟨"/m.js"⟩ joinedText = .ok ⟨joinedCode, ["./a"]⟩
      ∧ (Program.read joinedCode.toList).toOption.map (fun p => (p.items.length, p.items.getLast?))
        = some (4, some (.statement joinedStatement)) := by
  have hread : Program.read joinedText.toList = .ok joinedScript := by decide +kernel
  have hlaid : joinedScript.laidOut = true := by decide +kernel
  have hinside : joinedScript.items.any Item.beginsInside = false := by decide +kernel
  have hcompile : compile ⟨"/m.js"⟩ joinedText = .ok (joinedScript.lower joinedText.toList) := by
    rw [compile, hread]
    exact if_neg (Bool.eq_false_iff.1 hinside)
  refine ⟨hread, hlaid, by decide +kernel, by decide +kernel, ?_, by decide +kernel⟩
  rw [hcompile, Program.lower_eq hread hlaid hinside]
  decide +kernel

end ModuleBundler.Script
