import KotlinDoc.Page.Entry

namespace KotlinDoc.Proofs

def declarationIn (file : Text) (declaration : KotlinDoc.Declaration) : KotlinDoc.Declaration :=
  { declaration with file := file }

def symbolIn (file : Text) (symbol : Symbol) : Symbol :=
  ⟨declarationIn file symbol.declaration, symbol.children.map (declarationIn file)⟩

theorem declarationsAt_in (file other : Text) (braces : Int) (line : Nat) (site : Site)
    (below : List Site) :
    Symbol.declarationsAt file braces line site below =
      (Symbol.declarationsAt other braces line site below).map (declarationIn file) := by
  unfold Symbol.declarationsAt
  rw [List.map_filterMap]
  congr 1
  funext form
  rw [Option.map_map]
  rfl

theorem place_in (file : Text) (braces : Int) (declaration : KotlinDoc.Declaration)
    (symbols : List Symbol) :
    Symbol.place braces (declarationIn file declaration) (symbols.map (symbolIn file)) =
      (Symbol.place braces declaration symbols).map (symbolIn file) := by
  cases symbols with
  | nil => rfl
  | cons latest earlier =>
      show (if latest.declaration.depth < braces then _ else _) = List.map _ (if _ then _ else _)
      split
      · simp [symbolIn]
      · rfl

theorem add_in (file : Text) (braces : Int) (declaration : KotlinDoc.Declaration)
    (symbols : List Symbol) :
    Symbol.add braces (declarationIn file declaration) (symbols.map (symbolIn file)) =
      (Symbol.add braces declaration symbols).map (symbolIn file) := by
  show (if declaration.kind == .function then
      if Symbol.isTopFunction braces declaration.raw then _ else _ else _) = _
  unfold Symbol.add
  split
  · split <;> rfl
  · exact place_in file braces declaration symbols

theorem foldl_add_in (file : Text) (braces : Int) (declarations : List KotlinDoc.Declaration)
    (symbols : List Symbol) :
    (declarations.map (declarationIn file)).foldl
        (fun symbols declaration => Symbol.add braces declaration symbols)
        (symbols.map (symbolIn file)) =
      (declarations.foldl (fun symbols declaration => Symbol.add braces declaration symbols)
        symbols).map (symbolIn file) := by
  induction declarations generalizing symbols with
  | nil => rfl
  | cons declaration declarations ih =>
      rw [List.map_cons, List.foldl_cons, add_in, ih]
      rfl

theorem scan_in (file other : Text) (symbols : List Symbol) (braces : Int) (line : Nat)
    (sites : List Site) :
    Symbol.scan file (symbols.map (symbolIn file)) braces line sites =
      (Symbol.scan other symbols braces line sites).map (symbolIn file) := by
  induction sites generalizing symbols braces line with
  | nil => rfl
  | cons site below ih =>
      unfold Symbol.scan
      dsimp only
      rw [declarationsAt_in file other, foldl_add_in, ih]

theorem index_in (file other : Text) (lines : List Text) :
    Symbol.index file lines = (Symbol.index other lines).map (symbolIn file) := by
  unfold Symbol.index
  have scanned := scan_in file other [] 0 0 (Site.list lines)
  rw [List.map_nil] at scanned
  rw [scanned, List.map_reverse]

theorem file_of_mem_index {file : Text} {lines : List Text} {symbol : Symbol}
    (member : symbol ∈ Symbol.index file lines) : symbol.declaration.file = file := by
  rw [index_in file file] at member
  obtain ⟨old, -, rfl⟩ := List.mem_map.mp member
  rfl

theorem entry_symbolIn (file : Text) (symbol : Symbol) :
    (symbolIn file symbol).entry = symbol.entry := by
  unfold symbolIn Symbol.entry
  dsimp only
  rw [List.map_map]
  rfl

theorem entries_index (file other : Text) (lines : List Text) :
    (Symbol.index file lines).map Symbol.entry = (Symbol.index other lines).map Symbol.entry := by
  rw [index_in file other, List.map_map]
  apply List.map_congr_left
  intro symbol _
  exact entry_symbolIn file symbol

end KotlinDoc.Proofs
