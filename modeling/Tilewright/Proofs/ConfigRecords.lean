import Mathlib.Data.List.Nodup
import Tilewright.Config.Reader
import Tilewright.Proofs.ConfigPieces

/-!
# Reading the records of a configuration text

The reader of a record collects one field after the other. What it has to know about the fields of
a record is `Scan.Collects`: a field that has not been given yet can be read, and fields of
different names do not get in each other's way. From there on their order does not matter.

* `Scan.itemsFrom_items` is about the items between parentheses, and `Scan.record_written` about a
  record.
* `Scan.attributes_record` is about the attributes in front of one.
-/

namespace Tilewright.Scan

open Grammar

/-! ## Fields -/

/-- Holds where the name of a field stands in front. -/
def Named (text : Text) : Prop :=
  ∃ c rest, text = c :: rest ∧ isOther c = true

theorem Named.append {text : Text} (h : Named text) (rest : Text) : Named (text ++ rest) := by
  rcases h with ⟨c, more, rfl, hc⟩
  exact ⟨c, more ++ rest, rfl, hc⟩

theorem Named.solid {text : Text} (h : Named text) (rest : Text) : Solid (text ++ rest) := by
  rcases h with ⟨c, more, rfl, hc⟩
  refine ⟨c, more ++ rest, rfl, ?_, ?_⟩
  · by_contra hspace
    simp only [isSpace, Bool.not_eq_false, Bool.or_eq_true, beq_iff_eq] at hspace
    rcases hspace with ((rfl | rfl) | rfl) | rfl <;> exact absurd hc (by decide)
  · rintro rfl
    exact absurd hc (by decide)

theorem Named.peek {text : Text} (h : Named text) (rest : Text) :
    ∃ c, peek (text ++ rest) = .ok (c, text ++ rest) ∧ c ≠ ')' := by
  rcases h with ⟨c, more, rfl, hc⟩
  refine ⟨c, rfl, ?_⟩
  rintro rfl
  exact absurd hc (by decide)

/-- In front of a name a gap is taken off as a whole. -/
theorem dropBlank_named {gap text : Text} (hgap : Gap gap) (h : Named text) (rest : Text) :
    dropBlank .plain (gap ++ (text ++ rest)) = .ok (text ++ rest) := by
  rw [dropBlank_gap hgap, dropBlank_of_solid (h.solid rest)]

theorem solid_close (rest : Text) : Solid (')' :: rest) := ⟨_, _, rfl, rfl, by decide⟩

section Fields

variable {name written : Text} {Value : Text → Prop}

theorem named_label {label : Text} (hname : isName name = true) (hlabel : Label name label) :
    Named label := by
  rcases name with _ | ⟨c, more⟩
  · exact absurd hname (by simp [isName])
  · simp only [isName, Bool.and_eq_true] at hname
    cases hlabel with
    | plain => exact ⟨c, more, rfl, isOther_of_isFirst hname.1.1⟩
    | raw => exact ⟨'r', _, rfl, by decide⟩

theorem named_field (hname : isName name = true) (h : Field name Value written) :
    Named written := by
  cases h with
  | intro hlabel hbefore hbehind hvalue =>
    rcases named_label hname hlabel with ⟨c, more, rfl, hc⟩
    exact ⟨c, _, rfl, hc⟩

theorem solid_literal {text : Text} (h : Literal text written) (rest : Text) :
    Solid (written ++ rest) := by
  cases h with
  | escaped h => exact ⟨'"', _, rfl, rfl, by decide⟩
  | raw h => exact ⟨'r', _, rfl, rfl, by decide⟩

/-- A field is read by its name first. -/
theorem bind_identifier_field {β : Type} (hname : isName name = true) (h : Field name Value written)
    (rest : Text) : ∃ before behind value, Gap before ∧ Gap behind ∧ Value value ∧
      ∀ next : Text → Scan β, (identifier >>= next) (written ++ rest) =
        next name (before ++ ':' :: (behind ++ (value ++ rest))) := by
  cases h with
  | @intro label before behind value hlabel hbefore hbehind hvalue =>
    refine ⟨before, behind, value, hbefore, hbehind, hvalue, ?_⟩
    intro next
    simp only [List.append_assoc, List.cons_append]
    exact bind_of_ok next (identifier_label hname hlabel (not_isRaw_gap hbefore (by decide) _))

theorem textField_literal {before behind text : Text} (hbefore : Gap before) (hbehind : Gap behind)
    (h : Literal text written) (rest : Text) :
    textField name none (before ++ ':' :: (behind ++ (written ++ rest))) =
      .ok (some text, rest) := by
  show (colon >>= fun _ => string >>= fun found => pure (some found)) _ = _
  rw [bind_of_ok _ (colon_gap hbefore hbehind (solid_literal h rest)),
    bind_of_ok _ (string_literal h rest)]
  rfl

/-- A text field is read by its name, and then its value is. -/
theorem bind_identifier_text {β : Type} {text : Text} (hname : isName name = true)
    (h : Field name (Literal text) written) (rest : Text) :
    ∃ behind, textField name none behind = .ok (some text, rest) ∧
      ∀ next : Text → Scan β, (identifier >>= next) (written ++ rest) = next name behind := by
  rcases bind_identifier_field hname h rest with
    ⟨before, behind, value, hbefore, hbehind, hvalue, hnext⟩
  exact ⟨_, textField_literal hbefore hbehind hvalue rest, hnext⟩

end Fields

/-! ## Records -/

/-- What stands in front of a record's parenthesis is taken off. -/
theorem recordName_front {name front : Text} (hname : isName name = true) (h : Front name front)
    (rest : Text) : ∃ gap, Gap gap ∧
      recordName name (front ++ '(' :: rest) = .ok ((), gap ++ '(' :: rest) := by
  cases h with
  | nil => exact ⟨[], .nil, rfl⟩
  | @label label gap hlabel hgap =>
    refine ⟨gap, hgap, ?_⟩
    have hidentifier := identifier_label hname hlabel
      (not_isRaw_gap hgap (by decide : isRaw '(' = false) rest)
    rcases named_label hname hlabel with ⟨c, more, hcons, hc⟩
    rw [List.append_assoc, recordName, hidentifier, if_pos (by simp [hcons, hc])]
    simp

/-- A record begins with its parenthesis or with its name. -/
theorem head_record {α : Type} {name written : Text} {Item : α → Text → Prop} {items : List α}
    (hname : isName name = true) (h : Record name Item items written) :
    (∃ more, written = '(' :: more) ∨ Named written := by
  cases h with
  | intro hfront horder hbody =>
    cases hfront with
    | nil => exact .inl ⟨_, rfl⟩
    | label hlabel hgap =>
      rcases named_label hname hlabel with ⟨c, more, rfl, hc⟩
      exact .inr ⟨c, _, rfl, hc⟩

theorem solid_record {α : Type} {name written : Text} {Item : α → Text → Prop} {items : List α}
    (hname : isName name = true) (h : Record name Item items written) (rest : Text) :
    Solid (written ++ rest) := by
  rcases head_record hname h with ⟨more, rfl⟩ | hnamed
  · exact ⟨'(', _, rfl, rfl, by decide⟩
  · exact hnamed.solid rest

section Items

variable {α : Type} {Item : α → Text → Prop}

/-- There is a comma between any two items. -/
theorem length_le_of_items {items : List α} {body : Text} (h : Items Item items body) :
    items.length ≤ body.length + 1 := by
  induction h with
  | nil h => simp
  | last hbefore hitem hbehind => simp
  | cons hbefore hitem hbehind h ih =>
    simp only [List.length_cons, List.length_append]
    omega

/-- Where an item or a parenthesis follows, a gap is taken off as a whole. As long as items are
left, the name of one stands behind it. -/
theorem dropBlank_items (hnamed : ∀ {a written}, Item a written → Named written) {items : List α}
    {body : Text} (hbody : Items Item items body) (rest : Text) :
    ∃ here, dropBlank .plain (body ++ ')' :: rest) = .ok here ∧ Solid here ∧
      (items ≠ [] → Named here) := by
  cases hbody with
  | nil hgap =>
    refine ⟨_, ?_, solid_close rest, fun hne => absurd rfl hne⟩
    rw [dropBlank_gap hgap, dropBlank_of_solid (solid_close rest)]
  | last hbefore hitem hbehind =>
    simp only [List.append_assoc]
    have hitem := hnamed hitem
    exact ⟨_, dropBlank_named hbefore hitem _, hitem.solid _, fun _ => hitem.append _⟩
  | cons hbefore hitem hbehind hbody =>
    simp only [List.append_assoc]
    have hitem := hnamed hitem
    exact ⟨_, dropBlank_named hbefore hitem _, hitem.solid _, fun _ => hitem.append _⟩

variable {σ : Type} {item : σ → Scan σ} {s next : σ} {rounds : Nat} {text here behind rest : Text}

/-- At the closing parenthesis nothing is left to read. -/
theorem itemsFrom_close (h : dropBlank .plain text = .ok (')' :: rest)) :
    itemsFrom ')' item (rounds + 1) s text = .ok (s, rest) := by
  rw [itemsFrom, bind_of_ok _ (blank_of_dropBlank h),
    bind_of_ok _ (rfl : peek (')' :: rest) = .ok (')', ')' :: rest)), if_pos rfl,
    bind_of_ok _ (accept_cons _ _)]
  rfl

/-- An item with a comma behind it is read, and what stands behind the comma is read in the next
round. -/
theorem itemsFrom_comma {c : Char} (h : dropBlank .plain text = .ok here)
    (hpeek : peek here = .ok (c, here)) (hc : c ≠ ')') (hitem : item s here = .ok (next, behind))
    (hcomma : comma behind = .ok (true, rest)) :
    itemsFrom ')' item (rounds + 1) s text = itemsFrom ')' item rounds next rest := by
  rw [itemsFrom, bind_of_ok _ (blank_of_dropBlank h), bind_of_ok _ hpeek, if_neg hc,
    bind_of_ok _ hitem, bind_of_ok _ hcomma, if_pos rfl]

/-- An item without a comma behind it is the last one. -/
theorem itemsFrom_last {c : Char} (h : dropBlank .plain text = .ok here)
    (hpeek : peek here = .ok (c, here)) (hc : c ≠ ')') (hitem : item s here = .ok (next, behind))
    (hcomma : comma behind = .ok (false, ')' :: rest)) :
    itemsFrom ')' item (rounds + 1) s text = .ok (next, rest) := by
  rw [itemsFrom, bind_of_ok _ (blank_of_dropBlank h), bind_of_ok _ hpeek, if_neg hc,
    bind_of_ok _ hitem, bind_of_ok _ hcomma, if_neg (by decide),
    bind_of_ok _ (rfl : peek (')' :: rest) = .ok (')', ')' :: rest)), if_pos rfl,
    bind_of_ok _ (accept_cons _ _)]
  rfl

end Items

section Collects

variable {σ α : Type}

/-- What reading an item does to what has been collected. An item can be read when it has not been
given yet, and items of different names do not get in each other's way. -/
structure Collects (name : α → Text) (Item : α → Text → Prop) (item : σ → Scan σ)
    (give : σ → α → σ) (Lacks : σ → α → Prop) : Prop where
  named : ∀ {a written}, Item a written → Named written
  read : ∀ {s a written}, Lacks s a → Item a written → ∀ rest,
    item s (written ++ rest) = .ok (give s a, rest)
  lacks_give : ∀ {s a b}, name a ≠ name b → Lacks s b → Lacks (give s a) b
  give_comm : ∀ s {a b}, name a ≠ name b → give (give s a) b = give (give s b) a

variable {name : α → Text} {Item : α → Text → Prop} {item : σ → Scan σ} {give : σ → α → σ}
  {Lacks : σ → α → Prop}

/-- Items that have not been given yet are given one after the other. Each round but the last takes
a comma off, so that the rounds do not run out. -/
theorem itemsFrom_items (h : Collects name Item item give Lacks) {items : List α} {body : Text}
    (hbody : Items Item items body) {s : σ} (hnames : (items.map name).Nodup)
    (hlacks : ∀ a ∈ items, Lacks s a) {rounds : Nat} (hrounds : items.length ≤ rounds)
    {text rest : Text} (htext : dropBlank .plain text = dropBlank .plain (body ++ ')' :: rest)) :
    itemsFrom ')' item (rounds + 1) s text = .ok (items.foldl give s, rest) := by
  -- behind a comma the gap is gone already, so that the text is fixed only up to a gap in front
  induction hbody generalizing s rounds text with
  | nil hgap =>
    rw [dropBlank_gap hgap, dropBlank_of_solid (solid_close rest)] at htext
    exact itemsFrom_close htext
  | @last before a written behind hbefore hitem hbehind =>
    have hread := h.read (hlacks a (by simp)) hitem (behind ++ ')' :: rest)
    rcases (h.named hitem).peek (behind ++ ')' :: rest) with ⟨c, hpeek, hc⟩
    simp only [List.append_assoc, dropBlank_named hbefore (h.named hitem)] at htext
    exact itemsFrom_last htext hpeek hc hread (comma_close hbehind)
  | @cons before a written behind items body hbefore hitem hbehind hbody ih =>
    rcases rounds with _ | rounds
    · exact absurd hrounds (by simp)
    · have hread := h.read (hlacks a (by simp)) hitem (behind ++ ',' :: (body ++ ')' :: rest))
      rcases (h.named hitem).peek (behind ++ ',' :: (body ++ ')' :: rest)) with ⟨c, hpeek, hc⟩
      rcases dropBlank_items h.named hbody rest with ⟨here, hhere, hsolid, -⟩
      simp only [List.append_assoc, List.cons_append, dropBlank_named hbefore (h.named hitem)]
        at htext
      rw [itemsFrom_comma htext hpeek hc hread (comma_gap hbehind hhere)]
      rw [List.map_cons, List.nodup_cons] at hnames
      -- the items behind this one have other names, so that they have still not been given
      have hlacksMore : ∀ b ∈ items, Lacks (give s a) b := by
        intro b hb
        apply h.lacks_give _ (hlacks b (by simp [hb]))
        intro hsame
        exact hnames.1 (hsame ▸ List.mem_map_of_mem hb)
      exact ih hnames.2 hlacksMore (Nat.le_of_succ_le_succ hrounds)
        ((dropBlank_of_solid hsolid).trans hhere.symm)

/-- Fields of a record are collected, whatever their order. -/
theorem record_written (h : Collects name Item item give Lacks) {recordName : Text}
    (hname : isName recordName = true) {items : List α} {written : Text}
    (hrecord : Record recordName Item items written) {s : σ} (hnames : (items.map name).Nodup)
    (hlacks : ∀ a ∈ items, Lacks s a) (rest : Text) :
    record recordName item s (written ++ rest) = .ok (items.foldl give s, rest) := by
  cases hrecord with
  | @intro front ordered body hfront horder hbody =>
    rcases recordName_front hname hfront (body ++ ')' :: rest) with ⟨gap, hgap, hfront⟩
    have hopen : Solid ('(' :: (body ++ ')' :: rest)) := ⟨_, _, rfl, rfl, by decide⟩
    have hitems : Scan.items ')' item s (body ++ ')' :: rest) =
        .ok (ordered.foldl give s, rest) := by
      apply itemsFrom_items h hbody ((horder.map name).nodup_iff.2 hnames) _ _ rfl
      · intro a ha
        exact hlacks a (horder.mem_iff.1 ha)
      · have := length_le_of_items hbody
        simp only [List.length_append, List.length_cons]
        omega
    -- from here on the order does not count
    have hsame : ordered.foldl give s = items.foldl give s := by
      apply horder.foldl_eq'
      intro a ha b hb s
      have hordered := (horder.map name).nodup_iff.2 hnames
      rcases eq_or_ne (name a) (name b) with hsame | hne
      · rw [List.inj_on_of_nodup_map hordered ha hb hsame]
      · exact h.give_comm s hne
    simp only [List.append_assoc, List.cons_append, List.nil_append]
    rw [record, bind_of_ok _ hfront, bind_of_ok _ (blank_gap hgap hopen),
      bind_of_ok _ (accept_cons _ _), if_pos rfl, hitems, hsame]

end Collects

/-! ## Attributes -/

section Attributes

theorem acceptAll_cons {expected text behind here rest : Text} {more : List Text}
    (haccept : accept expected text = .ok (true, behind))
    (hhere : dropBlank .plain behind = .ok here)
    (hmore : acceptAll more here = .ok (true, rest)) :
    acceptAll (expected :: more) text = .ok (true, rest) := by
  rw [acceptAll, bind_of_ok _ haccept]
  dsimp only
  rw [if_pos rfl, bind_of_ok _ (blank_of_dropBlank hhere), bind_of_ok _ hmore]
  rfl

/-- Fixed texts are taken off with the gaps behind them, where none begins with a gap itself. -/
theorem acceptAll_tokens {tokens : List Text} {written : Text} (h : Tokens tokens written)
    (hne : tokens ≠ []) (hsolid : ∀ token ∈ tokens, ∀ rest, Solid (token ++ rest))
    {rest here : Text} (hrest : dropBlank .plain rest = .ok here) :
    acceptAll tokens (written ++ rest) = .ok (true, here) := by
  induction h with
  | nil => exact absurd rfl hne
  | @cons token gap tokens written hgap h ih =>
    have hbehind := dropBlank_gap hgap (written ++ rest)
    rw [List.append_assoc, List.append_assoc]
    cases h with
    | nil => exact acceptAll_cons (accept_append _ _) (hbehind.trans hrest) rfl
    | @cons next nextGap tokens more hgap h =>
      have hnext : Solid (next ++ nextGap ++ more ++ rest) := by
        simpa using hsolid next (by simp) (nextGap ++ more ++ rest)
      exact acceptAll_cons (accept_append _ _) (hbehind.trans (dropBlank_of_solid hnext))
        (ih (by simp) (fun token htoken => hsolid token (.tail _ htoken)))

theorem isName_of_mem_extensionNames {name : Text} (h : name ∈ extensionNames) :
    isName name = true := by
  simp only [extensionNames, List.mem_cons, List.not_mem_nil, or_false] at h
  rcases h with rfl | rfl | rfl <;> decide

theorem named_extension {name written : Text} (h : Extension name written) : Named written := by
  cases h with
  | intro hname hlabel => exact named_label (isName_of_mem_extensionNames hname) hlabel

/-- The name of an extension is read, and what it switches on. -/
theorem bind_extension {name written gap : Text} (h : Extension name written) (hgap : Gap gap)
    {c : Char} (hc : isRaw c = false) (rest : Text) :
    ∃ implicitSome : Bool, ∀ next : Bool → Scan Bool,
      (identifier >>= fun name => extension name >>= next) (written ++ (gap ++ c :: rest)) =
        next implicitSome (gap ++ c :: rest) := by
  cases h with
  | intro hname hlabel =>
    have hidentifier := identifier_label (isName_of_mem_extensionNames hname) hlabel
      (not_isRaw_gap hgap hc rest)
    simp only [extensionNames, List.mem_cons, List.not_mem_nil, or_false] at hname
    rcases hname with rfl | rfl | rfl
    · exact ⟨true, fun next => bind_of_ok _ hidentifier⟩
    · exact ⟨false, fun next => bind_of_ok _ hidentifier⟩
    · exact ⟨false, fun next => bind_of_ok _ hidentifier⟩

/-- The names of extensions are read up to the closing parenthesis. -/
theorem extensions_items {names : List Text} {body : Text} (h : Items Extension names body)
    (hne : names ≠ []) {rounds : Nat} (hrounds : names.length ≤ rounds + 1) {rest here : Text}
    (hhere : dropBlank .plain (body ++ ')' :: rest) = .ok here) :
    ∃ implicitSome, extensions (rounds + 1) here = .ok (implicitSome, ')' :: rest) := by
  induction h generalizing rounds here with
  | nil hgap => exact absurd rfl hne
  | @last before name label behind hbefore hitem hbehind =>
    simp only [List.append_assoc, dropBlank_named hbefore (named_extension hitem),
      Except.ok.injEq] at hhere
    rcases bind_extension hitem hbehind (by decide : isRaw ')' = false) rest with ⟨found, hnext⟩
    refine ⟨found, ?_⟩
    rw [← hhere, extensions, hnext, bind_of_ok _ (comma_close hbehind)]
    rfl
  | @cons before name label behind names body hbefore hitem hbehind hbody ih =>
    simp only [List.append_assoc, List.cons_append,
      dropBlank_named hbefore (named_extension hitem), Except.ok.injEq] at hhere
    rcases bind_extension hitem hbehind (by decide : isRaw ',' = false) (body ++ ')' :: rest) with
      ⟨found, hnext⟩
    rcases dropBlank_items named_extension hbody rest with ⟨more, hmore, -, hnamed⟩
    rw [← hhere, extensions, hnext, bind_of_ok _ (comma_gap hbehind hmore),
      bind_of_ok _ (rfl : peek? more = .ok (more.head?, more))]
    rcases names with _ | ⟨next, names⟩
    · -- a comma behind the last name
      cases hbody with
      | nil hgap =>
        rw [dropBlank_gap hgap, dropBlank_of_solid (solid_close rest), Except.ok.injEq] at hmore
        rw [← hmore]
        exact ⟨found, rfl⟩
    · rcases rounds with _ | rounds
      · exact absurd hrounds (by simp)
      · rcases ih (by simp) (Nat.le_of_succ_le_succ hrounds) hmore with ⟨others, hothers⟩
        rcases hnamed (by simp) with ⟨c, behindName, hcons, hc⟩
        refine ⟨others || found, ?_⟩
        rw [if_pos (by simp [hcons, hc]), if_pos rfl, bind_of_ok _ hothers]
        rfl

theorem solid_token (rest : Text) :
    ∀ token ∈ ["#".toList, "!".toList, "[".toList, "enable".toList, "(".toList] ++
      [")".toList, "]".toList], Solid (token ++ rest) := by
  intro token htoken
  simp only [List.cons_append, List.nil_append, List.mem_cons, List.not_mem_nil, or_false] at htoken
  rcases htoken with rfl | rfl | rfl | rfl | rfl | rfl | rfl <;>
    exact ⟨_, _, rfl, by decide, by decide⟩

/-- An attribute is taken off with the gap behind it. -/
theorem attributes_cons {first : Text} (h : Attribute first) {rounds : Nat} {rest here : Text}
    (hrounds : first.length ≤ rounds) (hrest : dropBlank .plain rest = .ok here)
    (hhere : Solid here) : ∃ implicitSome, attributes (rounds + 1) (first ++ rest) =
      (attributes rounds >>= fun more => pure (more || implicitSome)) here := by
  cases h with
  | @intro opening names body closing hopening hne hbody hclosing =>
    have hclosed := acceptAll_tokens hclosing (by simp)
      (fun token htoken rest => solid_token rest token (List.mem_append_right _ htoken)) hrest
    -- the names end at the parenthesis, which the closing tokens begin with
    obtain ⟨closed, rfl⟩ : ∃ closed, closing = ')' :: closed := by
      cases hclosing
      exact ⟨_, rfl⟩
    rw [List.cons_append] at hclosed
    rcases dropBlank_items named_extension hbody (closed ++ rest) with ⟨named, hdrop, hnamed, -⟩
    have hopened := acceptAll_tokens hopening (by simp)
      (fun token htoken rest => solid_token rest token (List.mem_append_left _ htoken)) hdrop
    have hhead : (opening ++ (body ++ ')' :: (closed ++ rest))).head? = some '#' := by
      cases hopening
      rfl
    have hlength : names.length ≤ rounds + 1 := by
      have := length_le_of_items hbody
      simp only [List.length_append] at hrounds
      omega
    rcases extensions_items hbody hne hlength hdrop with ⟨found, hextensions⟩
    refine ⟨found, ?_⟩
    simp only [List.append_assoc, List.cons_append]
    rw [attributes, bind_of_ok _ (rfl : peek? _ = .ok (_, _)), if_neg (not_not.2 hhead),
      bind_of_ok _ hopened]
    dsimp only
    rw [if_neg (by decide), bind_of_ok _ (blank_of_dropBlank (dropBlank_of_solid hnamed)),
      bind_of_ok _ hextensions,
      bind_of_ok _ (blank_of_dropBlank (dropBlank_of_solid (solid_close _))),
      bind_of_ok _ hclosed, if_neg (by decide),
      bind_of_ok _ (blank_of_dropBlank (dropBlank_of_solid hhere))]

theorem Attribute.exists_cons {first : Text} (h : Attribute first) :
    ∃ more, first = '#' :: more := by
  cases h with
  | intro hopening hne hbody hclosing =>
    cases hopening
    exact ⟨_, rfl⟩

theorem solid_attributes {written : Text} (h : Attributes written) {rest : Text}
    (hrest : Solid rest) : Solid (written ++ rest) := by
  cases h with
  | nil => exact hrest
  | cons hfirst h =>
    rcases Attribute.exists_cons hfirst with ⟨more, rfl⟩
    exact ⟨'#', _, rfl, rfl, by decide⟩

/-- The attributes in front of a record are taken off. Each has a character at least, so that the
rounds do not run out. -/
theorem attributes_record {α : Type} {name written before : Text} {Item : α → Text → Prop}
    {items : List α} (hname : isName name = true) (h : Record name Item items written)
    (hbefore : Attributes before) {rounds : Nat} (rest : Text) (hrounds : before.length ≤ rounds) :
    ∃ implicitSome, attributes (rounds + 1) (before ++ (written ++ rest)) =
      .ok (implicitSome, written ++ rest) := by
  induction hbefore generalizing rounds with
  | nil =>
    have hmark : (written ++ rest).head? ≠ some '#' := by
      rcases head_record hname h with ⟨more, rfl⟩ | ⟨c, more, rfl, hc⟩
      · simp
      · rintro hsame
        cases hsame
        exact absurd hc (by decide)
    refine ⟨false, ?_⟩
    rw [List.nil_append, attributes,
      bind_of_ok _ (rfl : peek? (written ++ rest) = .ok (_, written ++ rest)), if_pos hmark]
    rfl
  | @cons first more hfirst hmore ih =>
    have hsolid := solid_attributes hmore (solid_record hname h rest)
    have hpositive : 0 < first.length := by
      rcases Attribute.exists_cons hfirst with ⟨tail, rfl⟩
      exact Nat.succ_pos _
    rw [List.length_append] at hrounds
    rcases rounds with _ | rounds
    · omega
    · have hfits : first.length ≤ rounds + 1 := by omega
      rcases attributes_cons hfirst hfits (dropBlank_of_solid hsolid) hsolid with ⟨found, hfound⟩
      rcases @ih rounds (by omega) with ⟨others, hothers⟩
      refine ⟨others || found, ?_⟩
      rw [List.append_assoc, hfound, bind_of_ok _ hothers]
      rfl

end Attributes

end Tilewright.Scan
