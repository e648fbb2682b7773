import KotlinDoc.Domain.Session
import KotlinDoc.Proofs.Text.Cutting

/-!
# The owner around nested directives

The directives of a document are nested: a directive is opened, its content is read, and it is
closed. Content leaves the open directives as they are. It leaves the owner as it is only if it has
no class-like directive, since closing such a directive leaves no owner, be it within another one or
not (`Reading.context`). So an object has the names of the classes around it just if no class has
been closed within them before (`Place.owner_of_open`, `Place.behind_of_closed`).
-/

namespace KotlinDoc.Proofs.Domain

inductive Block where
  | mk (type : ObjectType) (noIndex : Bool) (signatures : List Text) (content : List Block)

mutual

def hasClass : Block → Bool
  | .mk type _ _ content => type.family == .classLike || haveClass content

def haveClass : List Block → Bool
  | [] => false
  | block :: blocks => hasClass block || haveClass blocks

end

/-! ## Names within a class -/

def heading (type : ObjectType) : Text :=
  if type.family = .classLike then type.name ++ " " else []

def ownName? (type : ObjectType) (signature : Text) : Option Text :=
  (Signature.read type none signature).toOption.map
    fun result => result.description.fullName.drop (heading type).length

/-- The name of the class that a class-like directive describes: its first signature that can be
read gives it. -/
def className? (type : ObjectType) (signatures : List Text) : Option Text :=
  signatures.findSome? (ownName? type)

theorem read_named {type : ObjectType} {owner : Option Text} {signature : Text}
    {result : Signature} (read : Signature.read type owner signature = .ok result) :
    ∃ own, ∀ other, ∃ named, Signature.read type other signature = .ok named ∧
      named.description.fullName = heading type ++ Signature.qualified other own := by
  unfold Signature.read at read ⊢
  cases family : type.family with
  | classLike =>
      simp only [family, Signature.ofClass, bind, Except.bind] at read ⊢
      split at read
      · cases read
      · rename_i name _
        exact ⟨Signature.lastPart name, fun other => ⟨_, rfl, by simp [heading, family]⟩⟩
  | callable =>
      simp only [family, Signature.ofCallable] at read ⊢
      split at read
      · rename_i empty
        simp only [empty, if_true]
        exact ⟨_, fun other => ⟨_, rfl, by simp only [heading, family]; rfl⟩⟩
      · rename_i list
        simp only [list]
        split at read
        · exact ⟨_, fun other => ⟨_, rfl, by simp only [heading, family]; rfl⟩⟩
        · cases read
  | enumEntry =>
      exact ⟨(Signature.cutEntry signature).name, fun other =>
        ⟨_, rfl, by simp [heading, family, Signature.ofEnumEntry]⟩⟩
  | property =>
      simp only [family, Signature.ofProperty] at read ⊢
      split at read
      · cases read
      · rename_i parts _ _
        exact ⟨parts.name, fun other => ⟨_, rfl, by simp [heading, family]⟩⟩

theorem read_fullName (type : ObjectType) (owner : Option Text) (signature : Text) :
    (Signature.read type owner signature).toOption.map (·.description.fullName) =
      (ownName? type signature).map fun own => heading type ++ Signature.qualified owner own := by
  unfold ownName?
  cases outside : Signature.read type none signature with
  | ok plain =>
      obtain ⟨own, named⟩ := read_named outside
      obtain ⟨result, read, fullName⟩ := named owner
      obtain ⟨plain', outside', plainName⟩ := named none
      obtain rfl : plain = plain' := Except.ok.inj (outside.symm.trans outside')
      simp [read, fullName, plainName, Except.toOption, Signature.qualified]
  | error error =>
      cases read : Signature.read type owner signature with
      | ok result =>
          obtain ⟨own, named⟩ := read_named read
          obtain ⟨plain, outside', -⟩ := named none
          cases outside.symm.trans outside'
      | error other => rfl

theorem read_anchor_of_class {type : ObjectType} (isClass : type.family = .classLike)
    (owner : Option Text) (signature : Text) :
    (Signature.read type owner signature).toOption.map (·.description.anchor) =
      (ownName? type signature).map
        fun own => type.name ++ ' ' :: Signature.qualified owner own := by
  have sameName : (Signature.read type owner signature).toOption.map (·.description.anchor) =
      (Signature.read type owner signature).toOption.map (·.description.fullName) := by
    simp only [Signature.read, isClass, Signature.ofClass, bind, Except.bind]
    split <;> rfl
  rw [sameName, read_fullName]
  simp [heading, isClass]

theorem space_notMem_name (type : ObjectType) : ' ' ∉ type.name := by
  cases type <;> decide

/-! ## Opening a directive -/

variable {before opened after inside start : Session} {type : ObjectType} {noIndex : Bool}
  {signatures : List Text} {content blocks : List Block}

structure Opens (before : Session) (type : ObjectType) (noIndex : Bool) (signatures : List Text)
    (opened : Session) : Prop where
  opens : ∃ warnings entries,
    before.openDirective type noIndex signatures = ⟨opened, warnings, .ok entries⟩
  reads : type.family = .classLike → (className? type signatures).isSome

theorem record_context {session : Session} {description : Description}
    {recorded : Session.Recorded}
    (ok : session.record type noIndex description = .ok recorded) :
    recorded.session.owner = session.owner ∧ recorded.session.opened = session.opened := by
  unfold Session.record at ok
  split at ok
  · cases ok
    exact ⟨rfl, rfl⟩
  · split at ok
    · split at ok
      · cases ok
        exact ⟨rfl, rfl⟩
      · cases ok
    · cases ok
      exact ⟨rfl, rfl⟩

theorem readSignature_context {opening next : Session.Opening} {signature : Text}
    (ok : Session.readSignature type noIndex opening signature = (next, none)) :
    next.session.owner = opening.session.owner ∧ next.session.opened = opening.session.opened ∧
      next.descriptions.head? = opening.descriptions.head?.or
        ((Signature.read type opening.session.owner.name signature).toOption.map
          (·.description)) := by
  unfold Session.readSignature at ok
  split at ok
  · cases ok
  · rename_i error read
    cases ok
    simp [read, Except.toOption]
  · rename_i result read
    dsimp only at ok
    split at ok
    · rename_i known
      cases ok
      cases descriptions : opening.descriptions with
      | nil => simp [descriptions] at known
      | cons first others => simp
    · split at ok
      · cases ok
      · rename_i recorded recording
        cases ok
        obtain ⟨owner, opened⟩ := record_context recording
        exact ⟨owner, opened, by simp [read, Except.toOption, List.head?_append]⟩

theorem readSignatures_context {opening final : Session.Opening}
    (ok : Session.readSignatures type noIndex opening signatures = (final, none)) :
    final.session.owner = opening.session.owner ∧ final.session.opened = opening.session.opened ∧
      final.descriptions.head? = opening.descriptions.head?.or
        (signatures.findSome? fun signature =>
          (Signature.read type opening.session.owner.name signature).toOption.map
            (·.description)) := by
  induction signatures generalizing opening with
  | nil =>
      cases ok
      simp
  | cons signature signatures ih =>
      unfold Session.readSignatures at ok
      split at ok
      · rename_i next step
        obtain ⟨owner, opened, head⟩ := readSignature_context step
        obtain ⟨owner', opened', head'⟩ := ih ok
        refine ⟨owner'.trans owner, opened'.trans opened, ?_⟩
        rw [head', head, owner, List.findSome?_cons]
        cases Signature.read type opening.session.owner.name signature with
        | error error => simp [Except.toOption]
        | ok result => simp [Except.toOption]
      · cases ok

theorem readSignatures_anchor {opening : Session.Opening} (isClass : type.family = .classLike)
    (ok : Session.readSignatures type noIndex ⟨before, [], [], []⟩ signatures = (opening, none)) :
    opening.descriptions.head?.map (·.anchor) = (className? type signatures).map
      fun own => type.name ++ ' ' :: Signature.qualified before.owner.name own := by
  obtain ⟨-, -, head⟩ := readSignatures_context ok
  rw [head, List.head?_nil, Option.none_or, className?, List.map_findSome?, List.map_findSome?]
  congr 1
  funext signature
  simpa [Function.comp_def] using read_anchor_of_class isClass before.owner.name signature

theorem Opens.of_class (opens : Opens before type noIndex signatures opened)
    (isClass : type.family = .classLike) :
    opened.opened = ⟨type, true⟩ :: before.opened ∧
      ∃ own, className? type signatures = some own ∧
        opened.owner = ⟨some (Signature.qualified before.owner.name own), some type.name⟩ := by
  obtain ⟨own, first⟩ := Option.isSome_iff_exists.1 (opens.reads isClass)
  obtain ⟨warnings, entries, opens⟩ := opens.opens
  unfold Session.openDirective at opens
  split at opens
  · cases opens
  · rename_i opening reading
    obtain ⟨-, stack, -⟩ := readSignatures_context reading
    have anchored := readSignatures_anchor isClass reading
    rw [first] at anchored
    obtain ⟨description, isHead, anchor⟩ := Option.map_eq_some_iff.1 anchored
    obtain ⟨others, descriptions⟩ := List.head?_eq_some_iff.1 isHead
    simp only [Session.enter, isClass, descriptions, Session.enterClass, anchor,
      cutFirst_append (space_notMem_name type)] at opens
    cases opens
    exact ⟨by simp [stack], own, first, rfl⟩

theorem Opens.of_member (opens : Opens before type noIndex signatures opened)
    (isMember : type.family ≠ .classLike) :
    opened.owner = before.owner ∧
      ∃ described, opened.opened = ⟨type, described⟩ :: before.opened := by
  obtain ⟨warnings, entries, opens⟩ := opens.opens
  unfold Session.openDirective at opens
  split at opens
  · cases opens
  · rename_i opening reading
    obtain ⟨owner, stack, -⟩ := readSignatures_context reading
    have enters : opening.session.enter type opening.descriptions = .ok opening.session := by
      unfold Session.enter
      split
      · contradiction
      · rfl
    rw [enters] at opens
    cases opens
    exact ⟨owner, _, by rw [stack]⟩

/-! ## Closing a directive -/

theorem close_of_class {session : Session} {outer : List OpenDirective}
    (isClass : type.family = .classLike) (stack : session.opened = ⟨type, true⟩ :: outer) :
    session.close = ⟨{ session with opened := outer, owner := {} }, [], .ok ()⟩ := by
  simp [Session.close, stack, isClass]

theorem close_of_member {session : Session} {described : Bool} {outer : List OpenDirective}
    (isMember : type.family ≠ .classLike) (stack : session.opened = ⟨type, described⟩ :: outer) :
    session.close = ⟨{ session with opened := outer }, [], .ok ()⟩ := by
  simp [Session.close, stack, isMember]

/-! ## Reading content -/

inductive Reading : Session → List Block → Session → Prop where
  | done (session : Session) : Reading session [] session
  | directive {before opened inside after : Session} {type : ObjectType} {noIndex : Bool}
      {signatures : List Text} {content blocks : List Block}
      (opens : Opens before type noIndex signatures opened)
      (within : Reading opened content inside)
      (next : Reading inside.close.session blocks after) :
      Reading before (.mk type noIndex signatures content :: blocks) after

theorem Reading.context (reading : Reading before blocks after) :
    after.opened = before.opened ∧
      after.owner = if haveClass blocks then {} else before.owner := by
  induction reading with
  | done session => simp [haveClass]
  | @directive before opened inside after type noIndex signatures content blocks opens _ _ within
      next =>
      by_cases isClass : type.family = .classLike
      -- The content gives back the open directives, so the directive that is closed is this one.
      · obtain ⟨stack, -⟩ := opens.of_class isClass
        rw [close_of_class isClass (within.1.trans stack)] at next
        refine ⟨next.1, ?_⟩
        rw [next.2]
        simp [haveClass, hasClass, isClass]
      · obtain ⟨owner, described, stack⟩ := opens.of_member isClass
        rw [close_of_member isClass (within.1.trans stack)] at next
        refine ⟨next.1, ?_⟩
        rw [next.2, within.2, owner]
        cases content : haveClass content <;> simp [haveClass, hasClass, isClass, content]

theorem Reading.owner_of_noClass (reading : Reading before blocks after)
    (noClass : haveClass blocks = false) : after.owner = before.owner := by
  rw [reading.context.2, noClass]
  rfl

/-! ## Places -/

/-- A place is reached by reading blocks and then, if the place is deeper, by opening a directive
and going on in its content. The classes that are open at the place are the path to it, and on the
way a class-like directive has been closed or not. -/
inductive Place : Session → List Text → Bool → Session → Prop where
  | here {start inside : Session} {blocks : List Block} (reading : Reading start blocks inside) :
      Place start [] (haveClass blocks) inside
  | inClass {start before opened inside : Session} {blocks : List Block} {type : ObjectType}
      {noIndex : Bool} {signatures : List Text} {own : Text} {path : List Text} {closed : Bool}
      (reading : Reading start blocks before) (isClass : type.family = .classLike)
      (opens : Opens before type noIndex signatures opened)
      (named : className? type signatures = some own) (place : Place opened path closed inside) :
      Place start (own :: path) (haveClass blocks || closed) inside
  | inMember {start before opened inside : Session} {blocks : List Block} {type : ObjectType}
      {noIndex : Bool} {signatures : List Text} {path : List Text} {closed : Bool}
      (reading : Reading start blocks before) (isMember : type.family ≠ .classLike)
      (opens : Opens before type noIndex signatures opened)
      (place : Place opened path closed inside) :
      Place start path (haveClass blocks || closed) inside

def nested (outer : Text) (path : List Text) : Text :=
  path.foldl (fun outer own => Signature.qualified (some outer) own) outer

theorem Opens.owner_of_class {own : Text} (opens : Opens before type noIndex signatures opened)
    (isClass : type.family = .classLike) (named : className? type signatures = some own) :
    opened.owner.name = some (Signature.qualified before.owner.name own) := by
  obtain ⟨-, own', named', owner⟩ := opens.of_class isClass
  obtain rfl : own = own' := Option.some.inj (named.symm.trans named')
  rw [owner]

theorem Place.owner_of_open {path : List Text} {closed : Bool}
    (place : Place start path closed inside) {outer : Text} (owner : start.owner.name = some outer)
    (isOpen : closed = false) : inside.owner.name = some (nested outer path) := by
  induction place generalizing outer with
  | here reading =>
      rw [reading.owner_of_noClass isOpen]
      exact owner
  | inClass reading isClass opens named _ ih =>
      obtain ⟨noClass, isOpen⟩ := Bool.or_eq_false_iff.1 isOpen
      apply ih _ isOpen
      rw [opens.owner_of_class isClass named, reading.owner_of_noClass noClass, owner]
  | inMember reading isMember opens _ ih =>
      obtain ⟨noClass, isOpen⟩ := Bool.or_eq_false_iff.1 isOpen
      apply ih _ isOpen
      rw [(opens.of_member isMember).1, reading.owner_of_noClass noClass]
      exact owner

def Behind (owner : Owner) (dotted : Text) : Prop :=
  (owner.name.getD []).length < dotted.length

theorem length_qualified {outer : Text} (named : outer ≠ []) (own : Text) :
    (Signature.qualified (some outer) own).length = outer.length + 1 + own.length := by
  cases outer with
  | nil => exact absurd rfl named
  | cons c outer =>
      simp only [Signature.qualified, List.length_append]
      rfl

theorem Behind.qualified {owner : Owner} {dotted : Text} (behind : Behind owner dotted)
    (own : Text) :
    (Signature.qualified owner.name own).length <
      (Signature.qualified (some dotted) own).length := by
  unfold Behind at behind
  have named : dotted ≠ [] := List.ne_nil_of_length_pos (Nat.zero_lt_of_lt behind)
  rw [length_qualified named]
  match name : owner.name with
  | none | some [] =>
      simp only [Signature.qualified]
      omega
  | some (c :: outer) =>
      simp only [name, Option.getD_some] at behind
      rw [length_qualified (List.cons_ne_nil c outer)]
      omega

theorem Reading.behind (reading : Reading before blocks after) {dotted : Text}
    (behind : Behind before.owner dotted) : Behind after.owner dotted := by
  rw [reading.context.2]
  cases haveClass blocks with
  | false => exact behind
  | true => exact Nat.lt_of_le_of_lt (Nat.zero_le _) behind

theorem Opens.behind {own : Text} (opens : Opens before type noIndex signatures opened)
    (isClass : type.family = .classLike) (named : className? type signatures = some own)
    {dotted : Text} (behind : Behind before.owner dotted) :
    Behind opened.owner (Signature.qualified (some dotted) own) := by
  unfold Behind
  rw [opens.owner_of_class isClass named]
  exact behind.qualified own

theorem Place.behind {path : List Text} {closed : Bool} (place : Place start path closed inside)
    {dotted : Text} (behind : Behind start.owner dotted) :
    Behind inside.owner (nested dotted path) := by
  induction place generalizing dotted with
  | here reading => exact reading.behind behind
  | inClass reading isClass opens named _ ih =>
      apply ih
      exact opens.behind isClass named (reading.behind behind)
  | inMember reading isMember opens _ ih =>
      apply ih
      rw [(opens.of_member isMember).1]
      exact reading.behind behind

theorem Reading.behind_of_class (reading : Reading before blocks after)
    (anyClass : haveClass blocks = true) {dotted : Text} (named : dotted ≠ []) :
    Behind after.owner dotted := by
  rw [reading.context.2, anyClass]
  exact List.length_pos_iff.2 named

/-- After a class-like directive has been closed, the owner's name lacks a part of the path. -/
theorem Place.behind_of_closed {path : List Text} {closed : Bool}
    (place : Place start path closed inside) {outer : Text} (owner : start.owner.name = some outer)
    (named : outer ≠ []) (isClosed : closed = true) : Behind inside.owner (nested outer path) := by
  induction place generalizing outer with
  | here reading => exact reading.behind_of_class isClosed named
  | @inClass _ before _ _ blocks _ _ _ own _ _ reading isClass opens ownName place ih =>
      -- A class that was closed before this level is missing in all names from here on. Otherwise the
      -- owner still has the whole name, and a class is closed further down.
      cases noClass : haveClass blocks with
      | true =>
          apply place.behind
          exact opens.behind isClass ownName (reading.behind_of_class noClass named)
      | false =>
          have named' : Signature.qualified (some outer) own ≠ [] := by
            apply List.ne_nil_of_length_pos
            rw [length_qualified named]
            omega
          refine ih ?_ named' (by simpa [noClass] using isClosed)
          rw [opens.owner_of_class isClass ownName, reading.owner_of_noClass noClass, owner]
  | @inMember _ before _ _ blocks _ _ _ _ _ reading isMember opens place ih =>
      have same := (opens.of_member isMember).1
      cases noClass : haveClass blocks with
      | true =>
          apply place.behind
          rw [same]
          exact reading.behind_of_class noClass named
      | false =>
          refine ih ?_ named (by simpa [noClass] using isClosed)
          rw [same, reading.owner_of_noClass noClass]
          exact owner

/-! ## Main statement -/

/-- Closing a class-like directive brings the owner back that was there before it was opened just if
there was none. What is described at a place within the directive has the names of all classes
around it just if no class-like directive has been closed on the way to the place. -/
theorem owner_restored_iff {last : Session} (isClass : type.family = .classLike)
    (opens : Opens before type noIndex signatures opened) (within : Reading opened content last) :
    (last.close.session.owner = before.owner ↔ before.owner = {}) ∧
      ∃ own outer, className? type signatures = some own ∧
        outer = Signature.qualified before.owner.name own ∧
        opened.owner = ⟨some outer, some type.name⟩ ∧
        (outer ≠ [] → ∀ path closed inside, Place opened path closed inside →
          ∀ member signature result,
            Signature.read member inside.owner.name signature = .ok result →
            ∃ own, ownName? member signature = some own ∧
              (result.description.fullName =
                heading member ++ Signature.qualified (some (nested outer path)) own ↔
                closed = false)) := by
  obtain ⟨stack, own, named, owner⟩ := opens.of_class isClass
  refine ⟨?_, own, _, named, rfl, owner, ?_⟩
  · rw [close_of_class isClass (within.context.1.trans stack)]
    exact eq_comm
  · intro named path closed inside place member signature result read
    have fullName := read_fullName member inside.owner.name signature
    rw [read] at fullName
    obtain ⟨own, isOwn, (fullName : _ = result.description.fullName)⟩ :=
      Option.map_eq_some_iff.1 fullName.symm
    refine ⟨own, isOwn, ?_⟩
    rw [← fullName, List.append_cancel_left_eq]
    cases closed with
    | false => simp [place.owner_of_open (congrArg Owner.name owner) rfl]
    | true =>
        have behind := place.behind_of_closed (congrArg Owner.name owner) named rfl
        have shorter := Nat.ne_of_lt (behind.qualified own)
        simpa using fun same => shorter (congrArg List.length same)

def shapeOpened : Session :=
  (({} : Session).openDirective .classType false ["Shape"]).session

def edgeOpened : Session :=
  (shapeOpened.openDirective .classType false ["Edge"]).session

def cornerClosed : Session :=
  (edgeOpened.openDirective .classType false ["Corner"]).session.close.session

theorem owner_restored_iff_edge :
    Opens shapeOpened .classType false ["Edge"] edgeOpened ∧
      Reading edgeOpened [.mk .classType false ["Corner"] []] cornerClosed ∧
      cornerClosed.close.session.owner ≠ shapeOpened.owner ∧
      ∃ result, Signature.read .topFunction cornerClosed.owner.name "length()" = .ok result ∧
        result.description.fullName ≠ "Shape.Edge.length()".toList := by
  have opens : Opens shapeOpened .classType false ["Edge"] edgeOpened :=
    ⟨⟨_, _, rfl⟩, fun _ => rfl⟩
  have within : Reading edgeOpened [.mk .classType false ["Corner"] []] cornerClosed :=
    .directive ⟨⟨_, _, rfl⟩, fun _ => rfl⟩ (.done _) (.done _)
  obtain ⟨restored, own, outer, named, isOuter, -, names⟩ := owner_restored_iff rfl opens within
  obtain rfl : "Edge".toList = own := Option.some.inj named
  obtain rfl : outer = "Shape.Edge".toList := isOuter
  refine ⟨opens, within, fun same => absurd (restored.1 same) (by decide), _, rfl, ?_⟩
  obtain ⟨own, isOwn, name⟩ :=
    names (by decide) [] true _ (.here within) .topFunction "length()" _ rfl
  obtain rfl : "length()".toList = own := Option.some.inj isOwn
  exact fun same => absurd (name.1 same) (by decide)

end KotlinDoc.Proofs.Domain
