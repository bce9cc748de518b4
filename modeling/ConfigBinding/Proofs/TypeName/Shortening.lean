import ConfigBinding.Proofs.Decimal.Digits
import ConfigBinding.TypeName

/-!
# Shortening type expressions

Types as expressions of paths, tuples, references, slices and arrays, and how they are spelled. The
pass over a qualified spelling keeps what stands before the segment it is in, so it goes over an
expression as over the short form of it, whatever was passed before and whatever mark follows
(`ShortensTo`). What is left is the spelling of the expression with every path cut to its last
segment (`shorten_spelling`).
-/

set_option autoImplicit false

namespace ConfigBinding.TypeName

/-! ## Type expressions -/

/-- A segment of a path: word characters, at least one. -/
structure Segment where
  chars : List Char
  ne_nil : chars ≠ []
  isWordChar_of_mem : ∀ c ∈ chars, isWordChar c = true

/-- A type, as it is written. A path stands in modules and may have arguments. -/
inductive TypeExpr where
  | path (modules : List Segment) (name : Segment) (arguments : List TypeExpr)
  | tuple (items : List TypeExpr)
  | reference (isMutable : Bool) (target : TypeExpr)
  | slice (item : TypeExpr)
  | array (item : TypeExpr) (length : Nat)

namespace TypeExpr

/-- The modules in front of a name. -/
def qualifier (modules : List Segment) : List Char :=
  modules.flatMap fun m => m.chars ++ [':', ':']

mutual

/-- The characters of a type. -/
def chars : TypeExpr → List Char
  | path modules name arguments => qualifier modules ++ (name.chars ++ argumentChars arguments)
  | tuple items => '(' :: (itemChars items ++ [')'])
  | reference false target => '&' :: target.chars
  | reference true target => '&' :: (['m', 'u', 't'] ++ ' ' :: target.chars)
  | slice item => '[' :: (item.chars ++ [']'])
  | array item length => '[' :: (item.chars ++ ';' :: ' ' :: (Decimal.digits length ++ [']']))

/-- The arguments of a path, between angle brackets if there are any. -/
def argumentChars : List TypeExpr → List Char
  | [] => []
  | t :: ts => '<' :: (t.chars ++ (furtherChars ts ++ ['>']))

/-- The items of a tuple; a single one has a comma behind it. -/
def itemChars : List TypeExpr → List Char
  | [] => []
  | [t] => t.chars ++ [',']
  | t :: u :: ts => t.chars ++ ',' :: ' ' :: (u.chars ++ furtherChars ts)

/-- Types that follow another one. -/
def furtherChars : List TypeExpr → List Char
  | [] => []
  | t :: ts => ',' :: ' ' :: (t.chars ++ furtherChars ts)

end

/-- The spelling of a type. -/
def spelling (t : TypeExpr) : String :=
  String.ofList t.chars

mutual

/-- A type with all paths in it cut to their last segment. -/
def short : TypeExpr → TypeExpr
  | path _ name arguments => path [] name (shortAll arguments)
  | tuple items => tuple (shortAll items)
  | reference isMutable target => reference isMutable target.short
  | slice item => slice item.short
  | array item length => array item.short length

/-- Types with all paths in them cut to their last segment. -/
def shortAll : List TypeExpr → List TypeExpr
  | [] => []
  | t :: ts => t.short :: shortAll ts

end

mutual

theorem short_short : ∀ t : TypeExpr, t.short.short = t.short
  | path _ _ arguments => by rw [short, short, shortAll_shortAll arguments]
  | tuple items => by rw [short, short, shortAll_shortAll items]
  | reference _ target => by rw [short, short, short_short target]
  | slice item => by rw [short, short, short_short item]
  | array item _ => by rw [short, short, short_short item]

theorem shortAll_shortAll : ∀ ts : List TypeExpr, shortAll (shortAll ts) = shortAll ts
  | [] => rfl
  | t :: ts => by rw [shortAll, shortAll, short_short t, shortAll_shortAll ts]

end

end TypeExpr

/-! ## The pass over a name -/

/-- A character that ends a segment and stays. -/
def IsMark (c : Char) : Prop :=
  isWordChar c = false ∧ c ≠ ':'

instance (c : Char) : Decidable (IsMark c) :=
  inferInstanceAs (Decidable (_ ∧ _))

/-- What follows a segment: nothing, or a mark. -/
def EndsSegment (rest : List Char) : Prop :=
  ∀ c ∈ rest.head?, IsMark c

theorem EndsSegment.nil : EndsSegment [] := nofun

theorem EndsSegment.cons {c : Char} (h : IsMark c) (rest : List Char) :
    EndsSegment (c :: rest) := by
  intro d hd
  rwa [← Option.some.inj hd]

theorem EndsSegment.append {cs rest : List Char} (h : EndsSegment cs) (hrest : EndsSegment rest) :
    EndsSegment (cs ++ rest) := by
  cases cs with
  | nil => exact hrest
  | cons c cs => exact .cons (h c rfl) _

section
variable {settled segment rest : List Char} {c : Char}

theorem shortenFrom_word (h : isWordChar c = true) :
    shortenFrom isWordChar ⟨settled, segment⟩ (c :: rest) =
      shortenFrom isWordChar ⟨settled, c :: segment⟩ rest := by
  have hcolon : c ≠ ':' := by
    rintro rfl
    cases h
  cases rest <;> simp [shortenFrom, h, hcolon]

theorem shortenFrom_mark (h : IsMark c) :
    shortenFrom isWordChar ⟨settled, segment⟩ (c :: rest) =
      shortenFrom isWordChar ⟨c :: segment ++ settled, []⟩ rest := by
  obtain ⟨hword, hcolon⟩ := h
  cases rest <;> simp [shortenFrom, hword, hcolon]

/-- Two colons drop the segment that they follow. -/
theorem shortenFrom_colons :
    shortenFrom isWordChar ⟨settled, segment⟩ (':' :: ':' :: rest) =
      shortenFrom isWordChar ⟨settled, []⟩ rest := by
  simp [shortenFrom]

/-- Word characters are added to the segment. -/
theorem shortenFrom_words {ws : List Char} (h : ∀ w ∈ ws, isWordChar w = true) :
    shortenFrom isWordChar ⟨settled, segment⟩ (ws ++ rest) =
      shortenFrom isWordChar ⟨settled, ws.reverse ++ segment⟩ rest := by
  induction ws generalizing segment with
  | nil => rfl
  | cons w ws ih =>
    obtain ⟨hw, hws⟩ := List.forall_mem_cons.mp h
    rw [List.cons_append, shortenFrom_word hw, ih hws, List.reverse_cons, List.append_assoc,
      List.singleton_append]

/-- Where a segment ends it does not matter that it was one. -/
theorem shortenFrom_settle (h : EndsSegment rest) :
    shortenFrom isWordChar ⟨settled, segment⟩ rest =
      shortenFrom isWordChar ⟨segment ++ settled, []⟩ rest := by
  cases rest with
  | nil => simp [shortenFrom, Shortening.text]
  | cons c rest =>
    have hc := h c rfl
    rw [shortenFrom_mark hc, shortenFrom_mark hc, List.cons_append, List.cons_append,
      List.nil_append]

theorem shortenFrom_qualifier (modules : List Segment) :
    shortenFrom isWordChar ⟨settled, []⟩ (TypeExpr.qualifier modules ++ rest) =
      shortenFrom isWordChar ⟨settled, []⟩ rest := by
  induction modules with
  | nil => rfl
  | cons m modules ih =>
    have hsplit : TypeExpr.qualifier (m :: modules) ++ rest =
        m.chars ++ ':' :: ':' :: (TypeExpr.qualifier modules ++ rest) := by
      simp [TypeExpr.qualifier]
    rw [hsplit, shortenFrom_words m.isWordChar_of_mem, shortenFrom_colons, ih]

end

/-- From a place where no segment has begun, `cs` is passed over as `ds` is, up to where a segment
ends. -/
def ShortensTo (cs ds : List Char) : Prop :=
  ∀ settled rest, EndsSegment rest →
    shortenFrom isWordChar ⟨settled, []⟩ (cs ++ rest) =
      shortenFrom isWordChar ⟨ds.reverse ++ settled, []⟩ rest

namespace ShortensTo

variable {cs ds cs' ds' : List Char}

theorem nil : ShortensTo [] [] := fun _ _ _ => rfl

theorem mark {c : Char} (hc : IsMark c) (h : ShortensTo cs ds) :
    ShortensTo (c :: cs) (c :: ds) := by
  intro settled rest hrest
  rw [List.cons_append, shortenFrom_mark hc, List.cons_append, List.nil_append, h _ _ hrest,
    List.reverse_cons, List.append_assoc, List.singleton_append]

theorem words {ws : List Char} (h : ∀ w ∈ ws, isWordChar w = true) : ShortensTo ws ws := by
  intro settled rest hrest
  rw [shortenFrom_words h, List.append_nil, shortenFrom_settle hrest]

/-- Parts go together if a segment ends between them. -/
theorem append (h : ShortensTo cs ds) (h' : ShortensTo cs' ds') (hends : EndsSegment cs') :
    ShortensTo (cs ++ cs') (ds ++ ds') := by
  intro settled rest hrest
  rw [List.append_assoc, h _ _ (hends.append hrest), h' _ _ hrest, List.reverse_append,
    List.append_assoc]

theorem append_mark {c : Char} (h : ShortensTo cs ds) (hc : IsMark c) (h' : ShortensTo cs' ds') :
    ShortensTo (cs ++ c :: cs') (ds ++ c :: ds') :=
  h.append (h'.mark hc) (.cons hc _)

theorem qualified (modules : List Segment) (h : ShortensTo cs ds) :
    ShortensTo (TypeExpr.qualifier modules ++ cs) ds := by
  intro settled rest hrest
  rw [List.append_assoc, shortenFrom_qualifier, h _ _ hrest]

end ShortensTo

namespace TypeExpr

theorem isWordChar_digitChar : ∀ d < 10, isWordChar (Nat.digitChar d) = true := by
  decide

theorem isWordChar_of_mem_digits {n : Nat} {c : Char} (h : c ∈ Decimal.digits n) :
    isWordChar c = true := by
  obtain ⟨ds, htext, -, hds, -⟩ := Decimal.digits_spec n
  rw [htext] at h
  obtain ⟨d, hd, rfl⟩ := List.mem_map.mp h
  exact isWordChar_digitChar d (hds d hd)

theorem endsSegment_argumentChars (ts : List TypeExpr) : EndsSegment (argumentChars ts) := by
  cases ts with
  | nil => exact .nil
  | cons t ts => exact .cons (by decide) _

theorem endsSegment_furtherChars (ts : List TypeExpr) : EndsSegment (furtherChars ts) := by
  cases ts with
  | nil => exact .nil
  | cons t ts => exact .cons (by decide) _

mutual

/-- The pass goes over a type as over its short form. -/
theorem shortensTo_chars : ∀ t : TypeExpr, ShortensTo t.chars t.short.chars
  | path modules name arguments => by
    rw [short, chars, chars]
    refine .qualified modules ?_
    exact (ShortensTo.words name.isWordChar_of_mem).append (shortensTo_arguments arguments)
      (endsSegment_argumentChars arguments)
  | tuple items => by
    rw [short, chars, chars]
    exact ((shortensTo_items items).append_mark (by decide) .nil).mark (by decide)
  | reference false target => by
    rw [short, chars, chars]
    exact (shortensTo_chars target).mark (by decide)
  | reference true target => by
    rw [short, chars, chars]
    have hmut : ∀ w ∈ ['m', 'u', 't'], isWordChar w = true := List.all_eq_true.mp (by decide)
    exact ((ShortensTo.words hmut).append_mark (by decide) (shortensTo_chars target)).mark
      (by decide)
  | slice item => by
    rw [short, chars, chars]
    exact ((shortensTo_chars item).append_mark (by decide) .nil).mark (by decide)
  | array item length => by
    rw [short, chars, chars]
    have hlength : ShortensTo (Decimal.digits length) (Decimal.digits length) :=
      .words fun _ => isWordChar_of_mem_digits
    have hend := (hlength.append_mark (c := ']') (by decide) .nil).mark (c := ' ') (by decide)
    exact ((shortensTo_chars item).append_mark (by decide) hend).mark (by decide)

theorem shortensTo_arguments : ∀ ts : List TypeExpr,
    ShortensTo (argumentChars ts) (argumentChars (shortAll ts))
  | [] => .nil
  | t :: ts => by
    rw [shortAll, argumentChars, argumentChars]
    have hfurther := (shortensTo_further ts).append_mark (c := '>') (by decide) .nil
    exact ((shortensTo_chars t).append hfurther
      ((endsSegment_furtherChars ts).append (.cons (by decide) _))).mark (by decide)

theorem shortensTo_items : ∀ ts : List TypeExpr, ShortensTo (itemChars ts) (itemChars (shortAll ts))
  | [] => .nil
  | [t] => by
    rw [shortAll, shortAll, itemChars, itemChars]
    exact (shortensTo_chars t).append_mark (by decide) .nil
  | t :: u :: ts => by
    rw [shortAll, shortAll, itemChars, itemChars]
    have hfurther := ((shortensTo_chars u).append (shortensTo_further ts)
      (endsSegment_furtherChars ts)).mark (c := ' ') (by decide)
    exact (shortensTo_chars t).append_mark (by decide) hfurther

theorem shortensTo_further : ∀ ts : List TypeExpr,
    ShortensTo (furtherChars ts) (furtherChars (shortAll ts))
  | [] => .nil
  | t :: ts => by
    rw [shortAll, furtherChars, furtherChars]
    exact (((shortensTo_chars t).append (shortensTo_further ts)
      (endsSegment_furtherChars ts)).mark (by decide)).mark (by decide)

end

/-! ## Short forms -/

theorem colon_not_mem_of_words {ws : List Char} (h : ∀ w ∈ ws, isWordChar w = true) : ':' ∉ ws := by
  intro hmem
  cases h ':' hmem

mutual

/-- No colon is left in a short form. -/
theorem colon_not_mem_short : ∀ t : TypeExpr, ':' ∉ t.short.chars
  | path modules name arguments => by
    have hname := colon_not_mem_of_words name.isWordChar_of_mem
    simp [short, chars, qualifier, hname, colon_not_mem_arguments arguments]
  | tuple items => by simp [short, chars, colon_not_mem_items items]
  | reference false target => by simp [short, chars, colon_not_mem_short target]
  | reference true target => by simp [short, chars, colon_not_mem_short target]
  | slice item => by simp [short, chars, colon_not_mem_short item]
  | array item length => by
    have hlength := colon_not_mem_of_words fun c (hc : c ∈ Decimal.digits length) =>
      isWordChar_of_mem_digits hc
    simp [short, chars, colon_not_mem_short item, hlength]

theorem colon_not_mem_arguments : ∀ ts : List TypeExpr, ':' ∉ argumentChars (shortAll ts)
  | [] => nofun
  | t :: ts => by
    simp [shortAll, argumentChars, colon_not_mem_short t, colon_not_mem_further ts]

theorem colon_not_mem_items : ∀ ts : List TypeExpr, ':' ∉ itemChars (shortAll ts)
  | [] => nofun
  | [t] => by simp [shortAll, itemChars, colon_not_mem_short t]
  | t :: u :: ts => by
    simp [shortAll, itemChars, colon_not_mem_short t, colon_not_mem_short u,
      colon_not_mem_further ts]

theorem colon_not_mem_further : ∀ ts : List TypeExpr, ':' ∉ furtherChars (shortAll ts)
  | [] => nofun
  | t :: ts => by
    simp [shortAll, furtherChars, colon_not_mem_short t, colon_not_mem_further ts]

end

end TypeExpr

theorem shorten_of_shortensTo {cs ds : List Char} (h : ShortensTo cs ds) :
    shorten (String.ofList cs) = String.ofList ds := by
  have hpass := h [] [] .nil
  rw [List.append_nil] at hpass
  simp [shorten, hpass, shortenFrom, Shortening.text]

/-- **Shortening cuts the paths of a type.** The qualified spelling of a type, however deep its
arguments and items are nested, is shortened to the spelling of the same type with every path cut to
its last segment. No colons are left in that, and to shorten it again changes nothing. -/
theorem shorten_spelling (t : TypeExpr) :
    shorten t.spelling = t.short.spelling ∧ ':' ∉ (shorten t.spelling).toList ∧
      shorten (shorten t.spelling) = shorten t.spelling := by
  have hshort : ∀ t : TypeExpr, shorten t.spelling = t.short.spelling := fun t =>
    shorten_of_shortensTo t.shortensTo_chars
  refine ⟨hshort t, ?_, ?_⟩
  · rw [hshort, TypeExpr.spelling, String.toList_ofList]
    exact t.colon_not_mem_short
  · rw [hshort, hshort, TypeExpr.short_short]

example : shorten "a::list::List<b::text::Text, [u8; 4]>" = "List<Text, [u8; 4]>" := by
  decide +kernel

end ConfigBinding.TypeName
