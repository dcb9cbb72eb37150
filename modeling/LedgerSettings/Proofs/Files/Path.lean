import Mathlib.Data.List.TakeWhile
import Mathlib.Logic.Relation
import LedgerSettings.Loading

namespace LedgerSettings.Path

theorem pieces_ne_nil (path : List Char) : pieces path ≠ [] := by
  cases path with
  | nil => exact List.cons_ne_nil _ _
  | cons head rest =>
    unfold pieces
    split
    · exact List.cons_ne_nil _ _
    · split <;> exact List.cons_ne_nil _ _

theorem pieces_below (left right : List Char) : pieces (left ++ '/' :: right) = pieces left ++ pieces right := by
  induction left with
  | nil => rfl
  | cons head rest ih =>
    rw [List.cons_append,pieces,pieces,ih]
    split
    · rfl
    · cases found : pieces rest with
      | nil => exact absurd found (pieces_ne_nil rest)
      | cons => rfl

theorem pieces_whole (whole : '/' ∉ name) : pieces name = [name] := by
  induction name with
  | nil => rfl
  | cons head rest ih =>
    rw [List.mem_cons,not_or] at whole
    rw [pieces,if_neg (Ne.symm whole.1),ih whole.2]

-- A name with no slash in it that leads on: neither nothing nor the dot of the directory
-- at hand. The two dots of the directory above are one.
structure Component (name : String) : Prop where
  whole : '/' ∉ name.toList
  written : name ≠ ""
  elsewhere : name ≠ "."

-- What a path can end in without leading on: slashes, and dots behind a slash.
inductive Trail : String → Prop where
  | nothing : Trail ""
  | slash (behind : Trail rest) : Trail ("/" ++ rest)
  | dot (behind : Trail rest) : Trail ("/." ++ rest)

-- The last component of a path: it opens the path or stands behind a slash, and nothing
-- behind it leads on.
inductive EndsIn : String → String → Prop where
  | alone (component : Component name) (trail : Trail rest) : EndsIn (name ++ rest) name
  | below (directory : String) (component : Component name) (trail : Trail rest) :
      EndsIn (directory ++ "/" ++ name ++ rest) name

theorem components_below (left right : String) :
    components (left ++ "/" ++ right).toList = components left.toList ++ components right.toList := by
  have slashed : (left ++ "/" ++ right).toList = left.toList ++ '/' :: right.toList := by simp
  rw [slashed,components,pieces_below,List.filter_append]
  rfl

theorem Component.components (component : Component name) : components name.toList = [name.toList] := by
  have written : name.toList ≠ [] := by simpa using component.written
  have elsewhere : name.toList ≠ here := fun same => component.elsewhere (String.toList_inj.mp same)
  rw [Path.components,pieces_whole component.whole]
  simp [written,elsewhere]

theorem component_or_silent (whole : '/' ∉ name.toList) : Component name ∨ name = "" ∨ name = "." := by
  by_cases written : name = ""
  · exact .inr (.inl written)
  · by_cases elsewhere : name = "."
    · exact .inr (.inr elsewhere)
    · exact .inl ⟨whole,written,elsewhere⟩

theorem components_trail (trail : Trail rest) : ∀ path : String,components (path ++ rest).toList = components path.toList := by
  induction trail with
  | nothing => simp
  | @slash rest _ ih =>
    intro path
    have silent := ih ""
    rw [String.empty_append] at silent
    rw [← String.append_assoc,components_below,silent]
    exact List.append_nil _
  | @dot rest _ ih =>
    intro path
    have slashed : path ++ ("/." ++ rest) = path ++ "/" ++ ("." ++ rest) := String.toList_inj.mp (by simp)
    rw [slashed,components_below,ih "."]
    exact List.append_nil _

theorem byFirstName {motive : String → Prop} (whole : ∀ name,'/' ∉ name.toList → motive name)
    (below : ∀ first rest,'/' ∉ first.toList → motive rest → motive (first ++ "/" ++ rest)) (path : String) :
    motive path := by
  by_cases slashed : '/' ∈ path.toList
  · obtain ⟨first,rest,cut,fresh⟩ := List.eq_append_cons_of_mem slashed
    have same : path = String.ofList first ++ "/" ++ String.ofList rest := String.toList_inj.mp (by simp [cut])
    have shorter : (String.ofList rest).length < path.length := by
      simp only [← String.length_toList,cut,String.toList_ofList,List.length_append,List.length_cons]
      omega
    rw [same]
    exact below _ _ (by simpa using fresh) (byFirstName whole below (String.ofList rest))
  · exact whole path slashed
termination_by path.length
decreasing_by exact shorter

theorem whole_silent (whole : '/' ∉ single.toList) (silent : components single.toList = []) : single = "" ∨ single = "." := by
  obtain component | empty := component_or_silent whole
  · rw [component.components] at silent
    cases silent
  · exact empty

theorem Trail.silent (path : String) : components path.toList = [] → Trail ("/" ++ path) := by
  induction path using byFirstName with
  | whole name whole =>
    intro silent
    obtain rfl | rfl := whole_silent whole silent
    · exact .slash .nothing
    · exact .dot .nothing
  | below first rest whole ih =>
    intro silent
    rw [components_below,List.append_eq_nil_iff] at silent
    have trail : Trail ("/" ++ rest) := ih silent.2
    rw [String.append_assoc]
    obtain rfl | rfl := whole_silent whole silent.1
    · exact .slash trail
    · exact .dot trail

theorem EndsIn.last (ends : EndsIn path name) : (components path.toList).getLast? = some name.toList := by
  cases ends with
  | alone component trail =>
    rw [components_trail trail,component.components]
    rfl
  | below directory component trail =>
    rw [components_trail trail,components_below,component.components]
    exact List.getLast?_concat

theorem EndsIn.under (directory : String) (ends : EndsIn path name) : EndsIn (directory ++ "/" ++ path) name := by
  cases ends with
  | alone component trail =>
    rw [← String.append_assoc]
    exact .below directory component trail
  | @below _ rest inner component trail =>
    have regrouped : directory ++ "/" ++ (inner ++ "/" ++ name ++ rest) = directory ++ "/" ++ inner ++ "/" ++ name ++ rest := by
      simp only [String.append_assoc]
    rw [regrouped]
    exact .below _ component trail

theorem whole_last (whole : '/' ∉ single.toList) (last : (components single.toList).getLast? = some name.toList) :
    Component single ∧ single = name := by
  obtain component | rfl | rfl := component_or_silent whole
  · rw [component.components] at last
    exact ⟨component,String.toList_inj.mp (Option.some.inj last)⟩
  · cases last
  · cases last

theorem EndsIn.ofLast (path : String) :
    (components path.toList).getLast? = some name.toList → EndsIn path name := by
  induction path using byFirstName with
  | whole single whole =>
    intro last
    obtain ⟨component,rfl⟩ := whole_last whole last
    have ends : EndsIn (single ++ "") single := .alone component .nothing
    rwa [String.append_empty] at ends
  | below first rest whole ih =>
    intro last
    rw [components_below,List.getLast?_append,Option.or_eq_some_iff,List.getLast?_eq_none_iff] at last
    -- Either the rest leads on, or it is trail and the first name is the last.
    obtain last | ⟨silent,last⟩ := last
    · exact (ih last).under first
    · obtain ⟨component,rfl⟩ := whole_last whole last
      rw [String.append_assoc]
      exact .alone component (.silent rest silent)

theorem ends_iff : EndsIn path name ↔ (components path.toList).getLast? = some name.toList :=
  ⟨EndsIn.last,EndsIn.ofLast path⟩

theorem EndsIn.unique (first : EndsIn path name) (second : EndsIn path name') : name = name' :=
  String.toList_inj.mp (Option.some.inj (first.last.symm.trans second.last))

theorem fileName_ends : fileName path.toList = some name.toList ↔ EndsIn path name ∧ name ≠ ".." := by
  have upwards : name.toList ≠ above ↔ name ≠ ".." := not_congr (@String.toList_inj name "..")
  rw [ends_iff,← upwards,fileName,Option.filter_eq_some_iff,decide_eq_true_eq]

theorem splitExtension_behind (behind : (name.reverse.takeWhile fun c => c ≠ '.').reverse = extension) :
    splitExtension name =
      if extension.length = name.length || (name.take (name.length - extension.length - 1)).isEmpty then none
      else some (name.take (name.length - extension.length - 1),extension) := by
  subst behind
  rfl

theorem splitExtension_dot (plain : '.' ∉ extension) :
    splitExtension (stem ++ '.' :: extension) = if stem = [] then none else some (stem,extension) := by
  have behind : ((stem ++ '.' :: extension).reverse.takeWhile fun c => c ≠ '.').reverse = extension := by
    rw [List.reverse_append,List.reverse_cons,List.append_assoc,List.takeWhile_append_of_pos]
    · simp
    · intro c member
      exact decide_eq_true fun same => plain (same ▸ List.mem_reverse.mp member)
  have before : (stem ++ '.' :: extension).length - extension.length - 1 = stem.length := by
    rw [List.length_append,List.length_cons]
    omega
  have shorter : extension.length ≠ (stem ++ '.' :: extension).length := by
    rw [List.length_append,List.length_cons]
    omega
  rw [splitExtension_behind behind,before,List.take_left,decide_eq_false shorter,Bool.false_or]
  simp only [List.isEmpty_iff]

theorem splitExtension_plain (plain : '.' ∉ name) : splitExtension name = none := by
  have behind : (name.reverse.takeWhile fun c => c ≠ '.').reverse = name := by
    rw [List.takeWhile_eq_self_iff.mpr,List.reverse_reverse]
    intro c member
    exact decide_eq_true fun same => plain (same ▸ List.mem_reverse.mp member)
  rw [splitExtension_behind behind,decide_eq_true rfl,Bool.true_or,if_pos rfl]

theorem splitExtension_some : splitExtension name = some (stem,extension) ↔
    name = stem ++ '.' :: extension ∧ stem ≠ [] ∧ '.' ∉ extension := by
  constructor
  · intro split
    by_cases dotted : '.' ∈ name.reverse
    · obtain ⟨behind,before,cut,plain⟩ := List.eq_append_cons_of_mem dotted
      have same : name = before.reverse ++ '.' :: behind.reverse := by
        rw [← List.reverse_reverse name,cut]
        simp
      have plain : '.' ∉ behind.reverse := fun member => plain (List.mem_reverse.mp member)
      rw [same,splitExtension_dot plain] at split
      by_cases empty : before.reverse = []
      · rw [if_pos empty] at split
        cases split
      · rw [if_neg empty] at split
        cases split
        exact ⟨same,empty,plain⟩
    · rw [splitExtension_plain fun member => dotted (List.mem_reverse.mpr member)] at split
      cases split
  · rintro ⟨rfl,written,plain⟩
    rw [splitExtension_dot plain,if_neg written]

-- One way to write a path anew: a directory put in front, a slash doubled, or a slash or
-- a slash and a dot put behind. A path that ends in no component has no name to keep: behind
-- a directory it would be the directory's trail.
inductive Respelled : String → String → Prop where
  | under (directory : String) (ends : EndsIn path name) : Respelled path (directory ++ "/" ++ path)
  | doubled (before after : String) : Respelled (before ++ "/" ++ after) (before ++ "//" ++ after)
  | slashed (path : String) : Respelled path (path ++ "/")
  | dotted (path : String) : Respelled path (path ++ "/.")

theorem Respelled.last (respelled : Respelled path other) :
    (components other.toList).getLast? = (components path.toList).getLast? := by
  cases respelled with
  | under directory ends => rw [components_below,List.getLast?_append,ends.last,Option.some_or]
  | doubled before after =>
    have between : before ++ "//" ++ after = before ++ "/" ++ ("" ++ "/" ++ after) := String.toList_inj.mp (by simp)
    rw [between,components_below,components_below,components_below]
    rfl
  | slashed path => exact congrArg List.getLast? (components_trail (.slash .nothing) path)
  | dotted path => exact congrArg List.getLast? (components_trail (.dot .nothing) path)

theorem respelled_last (respelled : Relation.ReflTransGen Respelled path other) :
    (components other.toList).getLast? = (components path.toList).getLast? := by
  induction respelled with
  | refl => rfl
  | tail _ last ih => rw [last.last,ih]

end LedgerSettings.Path

namespace LedgerSettings.DocumentFormat

open LedgerSettings.Path

theorem toml_named (stem : String) : stem ++ ".toml" ≠ ".." := by
  intro upwards
  have short := congrArg String.length upwards
  rw [String.length_append] at short
  have long : ".toml".length = 5 := rfl
  have two : "..".length = 2 := rfl
  omega

theorem ofPath_split : ofPath path = .toml ↔
    ∃ stem,(fileName path.toList).bind splitExtension = some (stem,['t','o','m','l']) := by
  unfold ofPath
  split
  case h_1 stem found => simp [found]
  case h_2 other =>
    simp only [reduceCtorEq,false_iff,not_exists]
    exact other

theorem ofPath_toml : ofPath path = .toml ↔ ∃ stem,stem ≠ "" ∧ EndsIn path (stem ++ ".toml") := by
  rw [ofPath_split]
  constructor
  · rintro ⟨stem,found⟩
    obtain ⟨name,named,split⟩ := Option.bind_eq_some_iff.mp found
    obtain ⟨same,written,-⟩ := splitExtension_some.mp split
    refine ⟨String.ofList stem,by simpa using written,?_⟩
    have ends : fileName path.toList = some (String.ofList stem ++ ".toml").toList := by
      rw [named,same]
      simp
    exact (fileName_ends.mp ends).1
  · rintro ⟨stem,written,ends⟩
    have split : (stem ++ ".toml").toList = stem.toList ++ '.' :: ['t','o','m','l'] := String.toList_append
    refine ⟨stem.toList,?_⟩
    rw [fileName_ends.mpr ⟨ends,toml_named stem⟩,split,Option.bind_some]
    exact splitExtension_some.mpr ⟨rfl,by simpa using written,by decide⟩

theorem json_otherwise (other : ofPath path ≠ .toml) : ofPath path = .json := by
  cases format : ofPath path with
  | json => rfl
  | toml => exact absurd format other

theorem ofPath_last (same : (components other.toList).getLast? = (components path.toList).getLast?) :
    ofPath other = ofPath path := by
  unfold ofPath fileName
  rw [same]

-- The notation of a file is told by the name its path ends in: with something in front of
-- the ending it is TOML, and under every other name, or none, it is JSON. No way to write the
-- path anew changes that, and whatever was read under one name is decoded alike.
theorem name_decides (path : String) :
    (∀ name,EndsIn path name → (ofPath path = .toml ↔ ∃ stem,stem ≠ "" ∧ name = stem ++ ".toml")) ∧
    ((¬ ∃ name,EndsIn path name ∧ name ≠ "..") → ofPath path = .json) ∧
    (∀ other,Relation.ReflTransGen Respelled path other → ofPath other = ofPath path) ∧
    (∀ name other,EndsIn path name → EndsIn other name →
      ∀ reading,Loader.decodeFile other reading = Loader.decodeFile path reading) := by
  refine ⟨fun name ends => ?_,fun unnamed => ?_,fun other respelled => ofPath_last (respelled_last respelled),
    fun name other ends ends' reading => ?_⟩
  · rw [ofPath_toml]
    constructor
    · rintro ⟨stem,written,behind⟩
      exact ⟨stem,written,ends.unique behind⟩
    · rintro ⟨stem,written,rfl⟩
      exact ⟨stem,written,ends⟩
  · refine json_otherwise fun toml => ?_
    obtain ⟨stem,-,ends⟩ := ofPath_toml.mp toml
    exact unnamed ⟨_,ends,toml_named stem⟩
  · have same : ofPath other = ofPath path := ofPath_last (ends'.last.trans ends.last.symm)
    unfold Loader.decodeFile
    rw [same]

theorem hidden_named : EndsIn "old.toml/.toml//" ".toml" ∧ ofPath "old.toml/.toml//" = .json ∧
    (∀ name,EndsIn "a.toml/.." name → name = "..") ∧ ofPath "a.toml/.." = .json ∧
    Relation.ReflTransGen Respelled "a.toml" "b.json//a.toml/." ∧ ofPath "b.json//a.toml/." = .toml ∧
    EndsIn "a.toml" "a.toml" ∧ EndsIn "b.json//a.toml/." "a.toml" ∧
    ∀ reading,Loader.decodeFile "b.json//a.toml/." reading = Loader.decodeFile "a.toml" reading := by
  obtain ⟨hiddenTold,-⟩ := name_decides "old.toml/.toml//"
  obtain ⟨-,unnamed,-⟩ := name_decides "a.toml/.."
  obtain ⟨told,-,kept,alike⟩ := name_decides "a.toml"
  have hidden : EndsIn "old.toml/.toml//" ".toml" := ends_iff.mpr (by decide +kernel)
  have upwards : EndsIn "a.toml/.." ".." := ends_iff.mpr (by decide +kernel)
  have named : EndsIn "a.toml" "a.toml" := ends_iff.mpr (by decide +kernel)
  have deeper : EndsIn "b.json//a.toml/." "a.toml" := ends_iff.mpr (by decide +kernel)
  have only : ∀ name,EndsIn "a.toml/.." name → name = ".." := fun name ends => ends.unique upwards
  have under : Respelled "a.toml" "b.json//a.toml" := .under "b.json/" named
  have respelled : Relation.ReflTransGen Respelled "a.toml" "b.json//a.toml/." :=
    (Relation.ReflTransGen.single under).tail (.dotted "b.json//a.toml")
  refine ⟨hidden,?_,only,?_,respelled,?_,named,deeper,alike "a.toml" _ named deeper⟩
  · refine json_otherwise fun toml => ?_
    obtain ⟨stem,written,same⟩ := (hiddenTold ".toml" hidden).mp toml
    have bare : stem ++ ".toml" = "" ++ ".toml" := same.symm
    exact written ((String.append_left_inj ".toml").mp bare)
  · exact unnamed fun ⟨name,ends,other⟩ => other (only name ends)
  · rw [kept _ respelled]
    exact (told "a.toml" named).mpr ⟨"a",by decide,by decide +kernel⟩

end LedgerSettings.DocumentFormat
