import SmartErp.Pec.Documents

/-!
# What the parser finds in an invoice

Where the tags can be told apart, each search ends at the first element whose name begins like the wanted
one. Only the number, the date, the number of the customer, the total and the due date can be those of
another element.
-/

namespace SmartErp.Pec
open Foundations Foundations.Pattern Foundations.Markup

theorem word_of_sought : ∀ tag ∈ sought, Word tag := by
  have word : ∀ tag ∈ sought, tag.toList ≠ [] ∧ tag.toList.all wordChar := by decide
  exact fun tag listed => ⟨(word tag listed).1, List.all_eq_true.mp (word tag listed).2⟩

/-- `DataScadenzaPagamento` is the only name that begins like another one. -/
theorem distinct : ∀ tag ∈ sought, tag ≠ "Data" → ∀ name ∈ sought, name ≠ tag → ¬ tag.toList <+: name.toList := by
  decide

theorem general_other : ∀ tag ∈ sought, ¬ tag.toList <+: "DatiGeneraliDocumento".toList := by
  decide

theorem looked_sought {tag : String} (listed : tag ∈ looked) : tag ∈ sought := by
  simp only [sought, List.mem_append, listed, true_or, or_true]

section
variable {tag : String}

theorem begins_none (listed : tag ∈ looked) {names : List String} (known : ∀ name ∈ names, name ∈ sought)
    (absent : tag ∉ names) : ∀ name ∈ names, ¬ tag.toList <+: name.toList := by
  intro name mem
  have other : tag ≠ "Data" := by
    rintro rfl
    exact absurd listed (by decide)
  refine distinct tag (looked_sought listed) other name (known name mem) ?_
  rintro rfl
  exact absent mem

theorem party_clear {restNames restApart : List String} (p : Party restNames restApart) {name : String}
    (listed : tag ∈ looked) (known : ∀ n ∈ name :: (partyNames ++ restNames), n ∈ sought)
    (absent : tag ∉ name :: (partyNames ++ restNames)) : Clear tag (p.pieces name) := by
  have others := begins_none listed known absent
  refine Clear.wrap (Clear.append ?_ ?_) (others name List.mem_cons_self) p.mark
  · refine content_clear (List.mem_append_right _ listed) (fun n mem => others n ?_) _
    exact List.mem_cons_of_mem _ (List.mem_append_left _ mem)
  · refine content_clear (List.mem_append_right _ (List.mem_append_right _ listed)) (fun n mem => others n ?_) _
    exact List.mem_cons_of_mem _ (List.mem_append_right _ mem)

theorem block_clear {names : List String} (b : Block names looked) {name : String} (listed : tag ∈ looked)
    (known : ∀ n ∈ name :: names, n ∈ sought) (absent : tag ∉ name :: names) : Clear tag (b.pieces name) := by
  have others := begins_none listed known absent
  refine Clear.wrap ?_ (others name List.mem_cons_self) b.mark
  exact content_clear (List.mem_append_right _ listed) (fun n mem => others n (List.mem_cons_of_mem _ mem)) _

def partyTags : List String := ["CedentePrestatore", "CessionarioCommittente"]

def blockTags : List String := ["DettaglioLinee", "DatiRiepilogo", "DettaglioPagamento"]

theorem parties_clear (d : Document) (listed : tag ∈ looked) (absent : tag ∉ partyTags) :
    Clear tag d.parties := by
  have known : ∀ tag ∈ looked, tag ∉ partyTags → tag ∉ "CedentePrestatore" :: (partyNames ++ []) ∧
      tag ∉ "CessionarioCommittente" :: (partyNames ++ ["IdCodice"]) := by decide
  obtain ⟨other, other'⟩ := known tag listed absent
  exact (pieces_clear listed _).append ((party_clear _ listed (by decide) other).append
    ((pieces_clear listed _).append (party_clear _ listed (by decide) other')))

theorem parties_unclosed (d : Document) (listed : tag ∈ stray) : Unclosed tag d.parties := by
  have known : ∀ tag ∈ stray, (∀ n ∈ partyNames, n ≠ tag) ∧ (∀ n ∈ partyTags, n ≠ tag) := by decide
  obtain ⟨names, tags⟩ := known tag listed
  have wrapped : ∀ {restNames restApart : List String} (p : Party restNames restApart), ∀ name ∈ partyTags,
      (∀ n ∈ restNames, n ∈ partyNames) → Unclosed tag (p.pieces name) := by
    intro restNames restApart p name mem rest
    refine List.forall_mem_cons.mpr ⟨rfl, Unclosed.append (Unclosed.append ?_ ?_) ?_⟩
    · exact content_unclosed listed names _
    · exact content_unclosed listed (fun n mem => names n (rest n mem)) _
    · exact List.forall_mem_singleton.mpr (by simp [closes, tags name mem])
  exact (pieces_unclosed listed _).append ((wrapped _ _ (by decide) (by decide)).append
    ((pieces_unclosed listed _).append (wrapped _ _ (by decide) (by decide))))

theorem general_clear (b : Body) (listed : tag ∈ blockTags) :
    Clear tag (b.general.pieces "DatiGeneraliDocumento") := by
  have known : ∀ tag ∈ blockTags, tag ∈ looked ∧ tag ∉ generalNames := by decide
  obtain ⟨listed', absent⟩ := known tag listed
  refine Clear.wrap ?_ (general_other tag (looked_sought listed')) _
  exact content_clear (List.mem_append_right _ listed') (begins_none listed' (by decide) absent) _

theorem rest_clear (b : Body) (listed : tag ∈ looked) (absent : tag ∉ blockTags) : Clear tag b.rest := by
  have known : ∀ tag ∈ looked, tag ∉ blockTags → tag ∉ "DettaglioLinee" :: lineNames ∧
      tag ∉ "DatiRiepilogo" :: summaryNames ∧ tag ∉ "DettaglioPagamento" :: paymentNames := by decide
  obtain ⟨line, summary, payment⟩ := known tag listed absent
  intro p mem
  obtain ⟨i, -, mem⟩ := List.mem_flatMap.mp mem
  have clear : Clear tag i.pieces := by
    cases i with
    | line b => exact block_clear b listed (by decide) line
    | summary b => exact block_clear b listed (by decide) summary
    | payment b => exact block_clear b listed (by decide) payment
    | other p => exact pieces_clear listed [p]
  exact clear p mem

/-! ## In the general data -/

theorem general_others (tag : String) (listed : tag ∈ generalNames) :
    ∀ name ∈ generalNames, name ≠ tag → ¬ tag.toList <+: name.toList := by
  have known : ∀ tag ∈ generalNames, ∀ name ∈ generalNames, name ≠ tag → ¬ tag.toList <+: name.toList := by decide
  exact known tag listed

theorem leading_clear (b : Body) (listed : tag ∈ generalNames) : Clear tag (b.leading tag) := by
  have known : ∀ tag ∈ generalNames, tag ∈ sought := by decide
  refine List.forall_mem_cons.mpr ⟨fun name here => ?_, ?_⟩
  · exact Option.some_inj.mp here ▸ general_other tag (known tag listed)
  · exact before_clear (List.mem_append_left _ listed) (general_others tag listed) _

theorem Body.pieces_of_field {b : Body} {l : Leaf} (found : field tag b.general.parts = some l) :
    ∃ rest, b.pieces = (Pec.pieces b.start ++ b.leading tag) ++ (l.pieces tag ++ rest) := by
  obtain ⟨rest, eq⟩ := content_of_field found
  refine ⟨rest ++ .closing b.general.mark "DatiGeneraliDocumento" :: b.rest, ?_⟩
  simp [Body.pieces, Block.pieces, Body.leading, eq]

theorem general_clear_of_none {b : Body} (listed : tag ∈ generalNames) (listed' : tag ∈ looked)
    (none : field tag b.general.parts = none) : Clear tag b.pieces := by
  have known : ∀ tag ∈ generalNames, tag ∉ blockTags := by decide
  have inner : Clear tag (content b.general.parts) :=
    content_of_none none ▸ before_clear (List.mem_append_left _ listed) (general_others tag listed) _
  refine (pieces_clear listed' _).append (Clear.append ?_ (rest_clear b listed' (known tag listed)))
  exact inner.wrap (general_other tag (looked_sought listed')) _

theorem search_invoices (listed : tag ∈ generalNames) (listed' : tag ∈ looked) {bs : List Body}
    {ps : List (Beside looked [])} (plain : Plain tag (bs.flatMap Body.pieces ++ pieces ps)) :
    first (render (bs.flatMap Body.pieces ++ pieces ps)) tag =
      bs.findSome? fun b => textOf b.general.parts tag := by
  have word := word_of_sought tag (looked_sought listed')
  unfold first
  induction bs with
  | nil =>
      rw [List.flatMap_nil, List.nil_append] at plain ⊢
      rw [search_eq_none word plain (pieces_clear listed' ps).unopened]
      rfl
  | cons b bs ih =>
      rw [List.flatMap_cons, List.append_assoc] at plain ⊢
      rw [List.findSome?_cons, textOf]
      cases found : field tag b.general.parts with
      | some l =>
          obtain ⟨rest, eq⟩ := Body.pieces_of_field found
          have ahead := (pieces_clear listed' b.start).append (leading_clear b listed)
          rw [eq, List.append_assoc, List.append_assoc (l.pieces tag)] at plain ⊢
          rw [search_leaf word plain ahead.unopened]
          rfl
      | none =>
          have clear := general_clear_of_none listed listed' found
          rw [search_append word plain clear.unopened, ih plain.right]
          rfl

theorem first_stray {d : Document} (plain : d.Plain) (listed : tag ∈ stray) :
    first d.xml tag = (d.read tag).map trim := by
  have known : ∀ tag ∈ stray, tag ∈ sought ∧ tag ∈ generalNames ∧
      tag ∈ ["Numero", "Data", "TipoDocumento", "Divisa"] := by decide
  obtain ⟨sought, listed', mandatory⟩ := known tag listed
  have word := word_of_sought tag sought
  have plain := plain tag sought
  have ahead := leading_clear d.body listed'
  obtain ⟨l, found⟩ := Option.isSome_iff_exists.mp (d.body.complete tag mandatory)
  obtain ⟨rest, eq⟩ := Body.pieces_of_field found
  obtain ⟨rest', eq'⟩ : ∃ rest', d.pieces = (d.header ++ d.body.leading tag) ++ (l.pieces tag ++ rest') := by
    refine ⟨rest ++ (d.bodies.flatMap Body.pieces ++ pieces d.finish), ?_⟩
    simp [Document.pieces, Document.invoices, Document.header, eq]
  have unclosed : Unclosed tag (d.header ++ d.body.leading tag) :=
    ((parties_unclosed d listed).append (pieces_unclosed listed _)).append ahead.unclosed
  rw [eq'] at plain
  rw [first, Document.xml, eq', Document.read, found, Option.map_some, Option.map_some]
  cases stray : after tag d.header with
  | none =>
      rw [search_leaf word plain ((after_eq_none.mp stray).append ahead.unopened)]
      rfl
  | some rest =>
      rw [search_stray word plain (after_append_of_some stray _) unclosed]
      rfl

/-! ## Blocks -/

def Item.block (tag : String) : Item → Option (List Piece)
  | line b => if tag = "DettaglioLinee" then some (content b.parts) else none
  | summary b => if tag = "DatiRiepilogo" then some (content b.parts) else none
  | payment b => if tag = "DettaglioPagamento" then some (content b.parts) else none
  | other _ => none

theorem matchAll_named {names : List String} {b : Block names looked} {name : String} {qs : List Piece}
    (listed : tag ∈ looked) (known : ∀ n ∈ name :: names, n ∈ sought) (absent : tag ∉ names)
    (plain : Plain tag (b.pieces name ++ qs)) :
    (element tag).matchAll (render (b.pieces name ++ qs)) =
      (if tag = name then some (content b.parts) else none).toList.map render ++
        (element tag).matchAll (render qs) := by
  have word := word_of_sought tag (looked_sought listed)
  split
  · rename_i same
    subst same
    have others := begins_none listed (fun n mem => known n (List.mem_cons_of_mem _ mem)) absent
    have inner : Clear tag (content b.parts) := content_clear (List.mem_append_right _ listed) others _
    have split : b.pieces tag ++ qs = .opening b.mark tag :: (content b.parts ++ .closing b.mark tag :: qs) := by
      simp [Block.pieces]
    rw [split] at plain ⊢
    rw [matchAll_block word plain inner.unclosed]
    rfl
  · rename_i other
    have clear := block_clear b listed known (List.not_mem_cons_of_ne_of_not_mem other absent)
    rw [matchAll_append word plain clear.unopened]
    rfl

theorem matchAll_items (listed : tag ∈ blockTags) {items : List Item} {qs : List Piece}
    (plain : Plain tag (items.flatMap Item.pieces ++ qs)) :
    (element tag).matchAll (render (items.flatMap Item.pieces ++ qs)) =
      (items.filterMap (Item.block tag)).map render ++ (element tag).matchAll (render qs) := by
  have known : ∀ tag ∈ blockTags, tag ∈ looked ∧ tag ∉ lineNames ∧ tag ∉ summaryNames ∧ tag ∉ paymentNames := by
    decide
  obtain ⟨listed', line, summary, payment⟩ := known tag listed
  induction items with
  | nil => rfl
  | cons i items ih =>
      rw [List.flatMap_cons, List.append_assoc] at plain ⊢
      have rest := ih plain.right
      have here : (element tag).matchAll (render (i.pieces ++ (items.flatMap Item.pieces ++ qs))) =
          (i.block tag).toList.map render ++
            (element tag).matchAll (render (items.flatMap Item.pieces ++ qs)) := by
        cases i with
        | line b => exact matchAll_named listed' (by decide) line plain
        | summary b => exact matchAll_named listed' (by decide) summary plain
        | payment b => exact matchAll_named listed' (by decide) payment plain
        | other p =>
            have word := word_of_sought tag (looked_sought listed')
            exact matchAll_append word plain (pieces_clear listed' [p]).unopened
      rw [here, rest, List.filterMap_cons]
      cases i.block tag <;> simp

theorem matchAll_invoices (listed : tag ∈ blockTags) {bs : List Body} {ps : List (Beside looked [])}
    (plain : Plain tag (bs.flatMap Body.pieces ++ pieces ps)) :
    (element tag).matchAll (render (bs.flatMap Body.pieces ++ pieces ps)) =
      (bs.flatMap fun b => b.items.filterMap (Item.block tag)).map render := by
  have known : ∀ tag ∈ blockTags, tag ∈ looked := by decide
  have listed' := known tag listed
  have word := word_of_sought tag (looked_sought listed')
  induction bs with
  | nil =>
      rw [List.flatMap_nil, List.nil_append] at plain ⊢
      exact matchAll_eq_nil word plain (pieces_clear listed' ps).unopened
  | cons b bs ih =>
      rw [List.flatMap_cons, Body.pieces, List.append_assoc, List.append_assoc, List.append_assoc] at plain ⊢
      rw [matchAll_append word plain (pieces_clear listed' _).unopened,
        matchAll_append word plain.right (general_clear b listed).unopened, Body.rest,
        matchAll_items listed plain.right.right, ih plain.right.right.right, List.flatMap_cons, List.map_append]

theorem allBlocks_xml {d : Document} (plain : d.Plain) (listed : tag ∈ blockTags) :
    allBlocks d.xml tag = (d.invoices.flatMap fun b => b.items.filterMap (Item.block tag)).map render := by
  have known : ∀ tag ∈ blockTags, tag ∈ looked ∧ tag ∉ partyTags := by decide
  obtain ⟨listed', absent⟩ := known tag listed
  have word := word_of_sought tag (looked_sought listed')
  have plain := plain tag (looked_sought listed')
  rw [Document.pieces] at plain
  rw [allBlocks, Document.xml, Document.pieces,
    matchAll_append word plain (parties_clear d listed' absent).unopened, matchAll_invoices listed plain.right]

theorem first_block {names : List String} {b : Block names looked} (known : ∀ n ∈ names, n ∈ sought)
    (own : ∀ n ∈ names, n ≠ "Data") (plain : ∀ tag ∈ names, Plain tag (content b.parts)) (listed : tag ∈ names) :
    first (render (content b.parts)) tag = textOf b.parts tag := by
  refine first_content (word_of_sought tag (known tag listed)) (List.mem_append_left _ listed) ?_ (plain tag listed)
  exact fun name mem other => distinct tag (known tag listed) (own tag listed) name (known name mem) other

theorem parsedLine_first {b : Block lineNames looked} (plain : ∀ tag ∈ lineNames, Plain tag (content b.parts)) :
    parsedLine (first (render (content b.parts))) = parsedLine (textOf b.parts) := by
  have read : ∀ tag ∈ lineNames, first (render (content b.parts)) tag = textOf b.parts tag :=
    fun tag listed => first_block (by decide) (by decide) plain listed
  unfold parsedLine
  rw [read "Descrizione" (by decide), read "Quantita" (by decide), read "UnitaMisura" (by decide),
    read "PrezzoUnitario" (by decide), read "PrezzoTotale" (by decide), read "AliquotaIVA" (by decide),
    read "Natura" (by decide)]

theorem ivaBreakdownItem_first {b : Block summaryNames looked}
    (plain : ∀ tag ∈ summaryNames, Plain tag (content b.parts)) :
    ivaBreakdownItem (first (render (content b.parts))) = ivaBreakdownItem (textOf b.parts) := by
  have read : ∀ tag ∈ summaryNames, first (render (content b.parts)) tag = textOf b.parts tag :=
    fun tag listed => first_block (by decide) (by decide) plain listed
  unfold ivaBreakdownItem
  rw [read "AliquotaIVA" (by decide), read "ImponibileImporto" (by decide), read "Imposta" (by decide),
    read "Natura" (by decide)]

theorem content_subset {d : Document} {i : Item} {ps : List Piece} {name : String}
    (mem : i ∈ d.invoices.flatMap (·.items)) (here : i.block name = some ps) : ∀ p ∈ ps, p ∈ d.pieces := by
  intro p inside
  obtain ⟨b, listed, mem⟩ := List.mem_flatMap.mp mem
  have own : p ∈ i.pieces := by
    cases i with
    | line b | summary b | payment b =>
        simp only [Item.block, Option.ite_none_right_eq_some, Option.some_inj] at here
        rw [← here.2] at inside
        exact List.mem_cons_of_mem _ (List.mem_append_left _ inside)
    | other p => cases here
  have body : p ∈ b.pieces :=
    List.mem_append_right _ (List.mem_append_right _ (List.mem_flatMap.mpr ⟨i, mem, own⟩))
  exact List.mem_append_right _ (List.mem_append_left _ (List.mem_flatMap.mpr ⟨b, listed, body⟩))

theorem blocks_xml {names : List String} (name : String) (pick : Item → Option (Block names looked)) {d : Document}
    (plain : d.Plain) (listed : name ∈ blockTags)
    (picks : ∀ i, i.block name = (pick i).map fun b => content b.parts) :
    allBlocks d.xml name =
        (d.invoices.flatMap fun b => b.items.filterMap pick).map (fun b => render (content b.parts)) ∧
      ∀ b ∈ d.invoices.flatMap (fun b => b.items.filterMap pick), ∀ tag ∈ sought, Plain tag (content b.parts) := by
  constructor
  · rw [allBlocks_xml plain listed, funext picks, List.map_flatMap, List.map_flatMap]
    simp only [List.map_filterMap, Option.map_map, Function.comp_def]
  · intro b mem tag listed p inside
    obtain ⟨body, first, mem⟩ := List.mem_flatMap.mp mem
    obtain ⟨i, mem, eq⟩ := List.mem_filterMap.mp mem
    have here : i.block name = some (content b.parts) := by rw [picks, eq]; rfl
    exact plain tag listed p (content_subset (List.mem_flatMap.mpr ⟨body, first, mem⟩) here p inside)

theorem lines_xml {d : Document} (plain : d.Plain) :
    ((allBlocks d.xml "DettaglioLinee").map fun block => parsedLine (first block)) = d.found.lines := by
  have known : ∀ tag ∈ lineNames, tag ∈ sought := by decide
  obtain ⟨blocks, inner⟩ := blocks_xml "DettaglioLinee" Item.line? plain (by decide)
    fun i => by cases i <;> simp [Item.block, Item.line?]
  rw [blocks, List.map_map]
  apply List.map_congr_left
  intro b mem
  exact parsedLine_first fun tag listed => inner b mem tag (known tag listed)

theorem ivaBreakdown_xml {d : Document} (plain : d.Plain) :
    ((allBlocks d.xml "DatiRiepilogo").map fun block => ivaBreakdownItem (first block)) = d.found.ivaBreakdown := by
  have known : ∀ tag ∈ summaryNames, tag ∈ sought := by decide
  obtain ⟨blocks, inner⟩ := blocks_xml "DatiRiepilogo" Item.summary? plain (by decide)
    fun i => by cases i <;> simp [Item.block, Item.summary?]
  rw [blocks, List.map_map]
  apply List.map_congr_left
  intro b mem
  exact ivaBreakdownItem_first fun tag listed => inner b mem tag (known tag listed)

/-- The due date of the first payment in the whole transmission. -/
def Document.dueDate (d : Document) : Option (List Char) :=
  (d.invoices.flatMap (·.payments)).head?.bind fun b => textOf b.parts "DataScadenzaPagamento"

theorem dueDate_xml {d : Document} (plain : d.Plain) :
    firstNested d.xml "DettaglioPagamento" "DataScadenzaPagamento" = d.dueDate := by
  obtain ⟨blocks, inner⟩ := blocks_xml "DettaglioPagamento" Item.payment? plain (by decide)
    fun i => by cases i <;> simp [Item.block, Item.payment?]
  have known : ∀ tag ∈ paymentNames, tag ∈ sought := by decide
  rw [firstNested, blocks, List.head?_map, Document.dueDate]
  cases found : (d.invoices.flatMap fun b => b.items.filterMap Item.payment?).head? with
  | none =>
      change _ = Option.bind (d.invoices.flatMap fun b => b.items.filterMap Item.payment?).head? _
      rw [found]
      rfl
  | some b =>
      change _ = Option.bind (d.invoices.flatMap fun b => b.items.filterMap Item.payment?).head? _
      rw [found]
      have plain := inner b (List.mem_of_mem_head? found)
      exact first_block (by decide) (by decide) (fun tag listed => plain tag (known tag listed)) (by decide)

/-! ## Parties -/

theorem first_party {restNames restApart : List String} {p : Party restNames restApart} (listed : tag ∈ partyNames)
    (listed' : tag ∈ restNames ++ (restApart ++ looked)) (known : ∀ n ∈ restNames, n ∈ partyNames)
    (plain : Plain tag p.content) :
    first (render p.content) tag = (textOf p.anagrafici tag).or (textOf p.rest tag) := by
  have inner : ∀ tag ∈ partyNames, tag ∈ sought ∧ tag ≠ "Data" ∧
      ∀ name ∈ partyNames, name ≠ tag → ¬ tag.toList <+: name.toList := by decide
  obtain ⟨sought, -, others⟩ := inner tag listed
  have word := word_of_sought tag sought
  have clear := before_clear (List.mem_append_left looked listed) others p.anagrafici
  rw [Party.content] at plain ⊢
  cases found : field tag p.anagrafici with
  | some l =>
      obtain ⟨rest, eq⟩ := content_of_field found
      rw [eq, List.append_assoc, List.append_assoc] at plain ⊢
      rw [first, search_leaf word plain clear.unopened, textOf, found]
      rfl
  | none =>
      rw [← content_of_none found] at clear
      rw [first, search_append word plain clear.unopened, textOf, found]
      exact first_content word listed' (fun name mem => others name (known name mem)) plain.right

theorem firstNested_party {restNames restApart : List String} {p : Party restNames restApart} {name : String}
    {ps qs : List Piece} (listed : name ∈ partyTags) (known : ∀ n ∈ restNames, n ∈ partyNames)
    (clear : Clear name ps) (plain : Plain name (ps ++ (p.pieces name ++ qs))) (tag : String) :
    firstNested (render (ps ++ (p.pieces name ++ qs))) name tag = first (render p.content) tag := by
  have tags : ∀ name ∈ partyTags, name ∈ looked ∧ ∀ n ∈ partyNames, ¬ name.toList <+: n.toList := by decide
  obtain ⟨listed', others⟩ := tags name listed
  have word := word_of_sought name (looked_sought listed')
  have inner : Clear name p.content := by
    refine Clear.append ?_ ?_
    · exact content_clear (List.mem_append_right _ listed') others _
    · exact content_clear (List.mem_append_right _ (List.mem_append_right _ listed'))
        (fun n mem => others n (known n mem)) _
  have split : p.pieces name ++ qs = .opening p.mark name :: (p.content ++ .closing p.mark name :: qs) := by
    simp [Party.pieces]
  rw [split] at plain ⊢
  rw [firstNested, allBlocks, matchAll_append word plain clear.unopened,
    matchAll_block word plain.right inner.unclosed]
  rfl

theorem textOf_nil {apart differ : List String} (parts : List (Part [] apart differ)) (tag : String) :
    textOf parts tag = none := by
  unfold textOf
  induction parts with
  | nil => rfl
  | cons part parts ih =>
      cases part with
      | leaf name listed l => cases listed
      | other p => exact ih

theorem supplier_xml {d : Document} (plain : d.Plain) (listed : tag ∈ partyNames) :
    firstNested d.xml "CedentePrestatore" tag = textOf d.cedente.anagrafici tag := by
  have known : ∀ tag ∈ partyNames, tag ∈ sought := by decide
  have outer := plain "CedentePrestatore" (by decide)
  have whole : d.pieces = pieces d.start ++ (d.cedente.pieces "CedentePrestatore" ++ (pieces d.between ++
      (d.cessionario.pieces "CessionarioCommittente" ++
        (d.invoices.flatMap Body.pieces ++ pieces d.finish)))) := by
    simp [Document.pieces, Document.parties]
  have inner : Plain tag d.cedente.content := by
    intro p mem
    refine plain tag (known tag listed) p ?_
    rw [whole]
    exact List.mem_append_right _ (List.mem_append_left _ (List.mem_cons_of_mem _ (List.mem_append_left _ mem)))
  have read := first_party (p := d.cedente) listed (List.mem_append_left looked listed) (by decide) inner
  rw [whole] at outer
  rw [Document.xml, whole, firstNested_party (by decide) (by decide) (pieces_clear (by decide) _) outer, read,
    textOf_nil, Option.or_none]

/-- The number of the customer, or else that of its representative. -/
def Document.customer (d : Document) : Option (List Char) :=
  (textOf d.cessionario.anagrafici "IdCodice").or (textOf d.cessionario.rest "IdCodice")

theorem customer_xml {d : Document} (plain : d.Plain) :
    firstNested d.xml "CessionarioCommittente" "IdCodice" = d.customer := by
  have outer := plain "CessionarioCommittente" (by decide)
  have whole : d.pieces = (pieces d.start ++ (d.cedente.pieces "CedentePrestatore" ++ pieces d.between)) ++
      (d.cessionario.pieces "CessionarioCommittente" ++ (d.invoices.flatMap Body.pieces ++ pieces d.finish)) := by
    simp [Document.pieces, Document.parties]
  have ahead : Clear "CessionarioCommittente"
      (pieces d.start ++ (d.cedente.pieces "CedentePrestatore" ++ pieces d.between)) :=
    (pieces_clear (by decide) _).append ((party_clear _ (by decide) (by decide) (by decide)).append
      (pieces_clear (by decide) _))
  have inner : Plain "IdCodice" d.cessionario.content := by
    intro p mem
    refine plain "IdCodice" (by decide) p ?_
    rw [whole]
    exact List.mem_append_right _ (List.mem_append_left _ (List.mem_cons_of_mem _ (List.mem_append_left _ mem)))
  rw [whole] at outer
  rw [Document.xml, whole, firstNested_party (by decide) (by decide) ahead outer,
    first_party (by decide) (by decide) (by decide) inner, Document.customer]

/-! ## All fields -/

/-- The total of the first invoice that states one. -/
def Document.total (d : Document) : Option (List Char) :=
  d.invoices.findSome? fun b => textOf b.general.parts "ImportoTotaleDocumento"

theorem general_xml {d : Document} (plain : d.Plain) (listed : tag ∈ generalNames) (listed' : tag ∈ looked) :
    first d.xml tag = d.invoices.findSome? fun b => textOf b.general.parts tag := by
  have known : ∀ tag ∈ generalNames, tag ∉ partyTags := by decide
  have word := word_of_sought tag (looked_sought listed')
  have whole : Plain tag (d.parties ++ (d.invoices.flatMap Body.pieces ++ pieces d.finish)) :=
    plain tag (looked_sought listed')
  have clear := parties_clear d listed' (known tag listed)
  rw [← search_invoices listed listed' whole.right, first, first, Document.xml, Document.pieces,
    search_append word whole clear.unopened]

theorem general_mandatory {d : Document} (plain : d.Plain) (listed : tag ∈ ["TipoDocumento", "Divisa"]) :
    first d.xml tag = textOf d.body.general.parts tag := by
  have known : ∀ tag ∈ ["TipoDocumento", "Divisa"], tag ∈ generalNames ∧ tag ∈ looked ∧
      tag ∈ ["Numero", "Data", "TipoDocumento", "Divisa"] := by decide
  obtain ⟨general, listed', mandatory⟩ := known tag listed
  obtain ⟨l, found⟩ := Option.isSome_iff_exists.mp (d.body.complete tag mandatory)
  rw [general_xml plain general listed', Document.invoices, List.findSome?_cons, textOf, found]
  rfl

theorem find_xml {d : Document} (plain : d.Plain) : find d.xml = { d.found with
    invoiceNumber := (d.read "Numero").map trim
    invoiceDate := (d.read "Data").map trim
    customerVatNumber := d.customer
    total := d.total
    paymentDueDate := d.dueDate } := by
  unfold find
  rw [first_stray plain (by decide), first_stray plain (by decide), general_mandatory plain (by decide),
    general_mandatory plain (by decide), supplier_xml plain (by decide), supplier_xml plain (by decide),
    customer_xml plain, lines_xml plain, ivaBreakdown_xml plain, general_xml plain (by decide) (by decide),
    dueDate_xml plain]
  rfl

end
end SmartErp.Pec
