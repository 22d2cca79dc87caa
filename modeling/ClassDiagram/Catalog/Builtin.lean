import ClassDiagram.Catalog

/-!
# The Built-in Catalog

A small part of the Java base library: the common types of `java.lang` and `java.util`, so that
they resolve without any catalog file. Each has only its most prominent members.
-/

namespace ClassDiagram

namespace Builtin

/-- The type `java.lang.Object`. -/
def object : Descriptor where
  name := "java.lang.Object"
  kind := .classType
  methods :=
    [⟨"getClass", [], [.publicAccess, .final, .native]⟩,
     ⟨"hashCode", [], [.publicAccess, .native]⟩,
     ⟨"equals", ["java.lang.Object"], [.publicAccess]⟩,
     ⟨"clone", [], [.protectedAccess, .native]⟩,
     ⟨"toString", [], [.publicAccess]⟩,
     ⟨"notify", [], [.publicAccess, .final, .native]⟩,
     ⟨"notifyAll", [], [.publicAccess, .final, .native]⟩,
     ⟨"wait", ["long"], [.publicAccess, .final]⟩,
     ⟨"wait", [], [.publicAccess, .final]⟩,
     ⟨"wait", ["long", "int"], [.publicAccess, .final]⟩,
     ⟨"finalize", [], [.protectedAccess]⟩]

/-- The type `java.io.Serializable`. -/
def serializable : Descriptor where
  name := "java.io.Serializable"
  kind := .interfaceType

/-- The type `java.lang.Cloneable`. -/
def cloneable : Descriptor where
  name := "java.lang.Cloneable"
  kind := .interfaceType

/-- The type `java.lang.Comparable`. -/
def comparable : Descriptor where
  name := "java.lang.Comparable"
  kind := .interfaceType
  methods :=
    [⟨"compareTo", ["java.lang.Object"], [.publicAccess, .abstract]⟩]

/-- The type `java.lang.CharSequence`. -/
def charSequence : Descriptor where
  name := "java.lang.CharSequence"
  kind := .interfaceType
  methods :=
    [⟨"length", [], [.publicAccess, .abstract]⟩,
     ⟨"charAt", ["int"], [.publicAccess, .abstract]⟩,
     ⟨"subSequence", ["int", "int"], [.publicAccess, .abstract]⟩,
     ⟨"toString", [], [.publicAccess, .abstract]⟩,
     ⟨"chars", [], [.publicAccess]⟩,
     ⟨"codePoints", [], [.publicAccess]⟩,
     ⟨"isEmpty", [], [.publicAccess]⟩,
     ⟨"compare", ["java.lang.CharSequence", "java.lang.CharSequence"], [.publicAccess, .static]⟩]

/-- The type `java.lang.constant.Constable`. -/
def constable : Descriptor where
  name := "java.lang.constant.Constable"
  kind := .interfaceType
  methods :=
    [⟨"describeConstable", [], [.publicAccess, .abstract]⟩]

/-- The type `java.lang.constant.ConstantDesc`. -/
def constantDesc : Descriptor where
  name := "java.lang.constant.ConstantDesc"
  kind := .interfaceType
  methods :=
    [⟨"resolveConstantDesc", ["java.lang.invoke.MethodHandles$Lookup"], [.publicAccess, .abstract]⟩]

/-- The type `java.lang.String`. -/
def string : Descriptor where
  name := "java.lang.String"
  kind := .classType
  superclass := some "java.lang.Object"
  interfaces :=
    ["java.io.Serializable",
     "java.lang.Comparable",
     "java.lang.CharSequence",
     "java.lang.constant.Constable",
     "java.lang.constant.ConstantDesc"]
  fields :=
    [⟨"value", "[B", [.privateAccess, .final]⟩,
     ⟨"coder", "byte", [.privateAccess, .final]⟩,
     ⟨"hash", "int", [.privateAccess]⟩,
     ⟨"hashIsZero", "boolean", [.privateAccess]⟩,
     ⟨"serialVersionUID", "long", [.privateAccess, .static, .final]⟩,
     ⟨"COMPACT_STRINGS", "boolean", [.static, .final]⟩,
     ⟨"serialPersistentFields", "[Ljava.io.ObjectStreamField;", [.privateAccess, .static, .final]⟩,
     ⟨"CASE_INSENSITIVE_ORDER", "java.util.Comparator", [.publicAccess, .static, .final]⟩,
     ⟨"LATIN1", "byte", [.static, .final]⟩,
     ⟨"UTF16", "byte", [.static, .final]⟩]
  methods :=
    [⟨"length", [], [.publicAccess]⟩,
     ⟨"isEmpty", [], [.publicAccess]⟩,
     ⟨"charAt", ["int"], [.publicAccess]⟩,
     ⟨"codePointAt", ["int"], [.publicAccess]⟩,
     ⟨"equals", ["java.lang.Object"], [.publicAccess]⟩,
     ⟨"hashCode", [], [.publicAccess]⟩,
     ⟨"compareTo", ["java.lang.String"], [.publicAccess]⟩,
     ⟨"indexOf", ["int"], [.publicAccess]⟩,
     ⟨"substring", ["int"], [.publicAccess]⟩,
     ⟨"substring", ["int", "int"], [.publicAccess]⟩,
     ⟨"concat", ["java.lang.String"], [.publicAccess]⟩,
     ⟨"replace", ["char", "char"], [.publicAccess]⟩,
     ⟨"split", ["java.lang.String"], [.publicAccess]⟩,
     ⟨"toString", [], [.publicAccess]⟩,
     ⟨"valueOf", ["java.lang.Object"], [.publicAccess, .static]⟩,
     ⟨"format", ["java.lang.String", "[Ljava.lang.Object;"], [.publicAccess, .static]⟩,
     ⟨"intern", [], [.publicAccess, .native]⟩,
     ⟨"describeConstable", [], [.publicAccess]⟩,
     ⟨"resolveConstantDesc", ["java.lang.invoke.MethodHandles$Lookup"], [.publicAccess]⟩]

/-- The type `java.lang.Number`. -/
def number : Descriptor where
  name := "java.lang.Number"
  kind := .classType
  superclass := some "java.lang.Object"
  interfaces :=
    ["java.io.Serializable"]
  fields :=
    [⟨"serialVersionUID", "long", [.privateAccess, .static, .final]⟩]
  methods :=
    [⟨"intValue", [], [.publicAccess, .abstract]⟩,
     ⟨"longValue", [], [.publicAccess, .abstract]⟩,
     ⟨"floatValue", [], [.publicAccess, .abstract]⟩,
     ⟨"doubleValue", [], [.publicAccess, .abstract]⟩,
     ⟨"byteValue", [], [.publicAccess]⟩,
     ⟨"shortValue", [], [.publicAccess]⟩]

/-- The type `java.lang.Integer`. -/
def integer : Descriptor where
  name := "java.lang.Integer"
  kind := .classType
  superclass := some "java.lang.Number"
  interfaces :=
    ["java.lang.Comparable", "java.lang.constant.Constable", "java.lang.constant.ConstantDesc"]
  fields :=
    [⟨"MIN_VALUE", "int", [.publicAccess, .static, .final]⟩,
     ⟨"MAX_VALUE", "int", [.publicAccess, .static, .final]⟩,
     ⟨"TYPE", "java.lang.Class", [.publicAccess, .static, .final]⟩,
     ⟨"digits", "[C", [.static, .final]⟩,
     ⟨"value", "int", [.privateAccess, .final]⟩,
     ⟨"SIZE", "int", [.publicAccess, .static, .final]⟩,
     ⟨"BYTES", "int", [.publicAccess, .static, .final]⟩,
     ⟨"serialVersionUID", "long", [.privateAccess, .static, .final]⟩]
  methods :=
    [⟨"toString", ["int", "int"], [.publicAccess, .static]⟩,
     ⟨"parseInt", ["java.lang.String"], [.publicAccess, .static]⟩,
     ⟨"valueOf", ["int"], [.publicAccess, .static]⟩,
     ⟨"intValue", [], [.publicAccess]⟩,
     ⟨"longValue", [], [.publicAccess]⟩,
     ⟨"compareTo", ["java.lang.Integer"], [.publicAccess]⟩,
     ⟨"compare", ["int", "int"], [.publicAccess, .static]⟩,
     ⟨"hashCode", [], [.publicAccess]⟩,
     ⟨"equals", ["java.lang.Object"], [.publicAccess]⟩,
     ⟨"sum", ["int", "int"], [.publicAccess, .static]⟩]

/-- The type `java.lang.Enum`. -/
def enum : Descriptor where
  name := "java.lang.Enum"
  kind := .classType
  superclass := some "java.lang.Object"
  interfaces :=
    ["java.lang.Comparable", "java.io.Serializable", "java.lang.constant.Constable"]
  fields :=
    [⟨"name", "java.lang.String", [.privateAccess, .final]⟩,
     ⟨"ordinal", "int", [.privateAccess, .final]⟩]
  methods :=
    [⟨"name", [], [.publicAccess, .final]⟩,
     ⟨"ordinal", [], [.publicAccess, .final]⟩,
     ⟨"toString", [], [.publicAccess]⟩,
     ⟨"equals", ["java.lang.Object"], [.publicAccess, .final]⟩,
     ⟨"hashCode", [], [.publicAccess, .final]⟩,
     ⟨"compareTo", ["java.lang.Enum"], [.publicAccess, .final]⟩,
     ⟨"valueOf", ["java.lang.Class", "java.lang.String"], [.publicAccess, .static]⟩,
     ⟨"describeConstable", [], [.publicAccess, .final]⟩]

/-- The type `java.lang.Runnable`. -/
def runnable : Descriptor where
  name := "java.lang.Runnable"
  kind := .interfaceType
  methods :=
    [⟨"run", [], [.publicAccess, .abstract]⟩]

/-- The type `java.lang.Thread`. -/
def thread : Descriptor where
  name := "java.lang.Thread"
  kind := .classType
  superclass := some "java.lang.Object"
  interfaces :=
    ["java.lang.Runnable"]
  fields :=
    [⟨"name", "java.lang.String", [.privateAccess, .volatile]⟩,
     ⟨"priority", "int", [.privateAccess]⟩,
     ⟨"daemon", "boolean", [.privateAccess]⟩,
     ⟨"target", "java.lang.Runnable", [.privateAccess]⟩,
     ⟨"threadStatus", "int", [.privateAccess, .volatile]⟩,
     ⟨"MIN_PRIORITY", "int", [.publicAccess, .static, .final]⟩,
     ⟨"NORM_PRIORITY", "int", [.publicAccess, .static, .final]⟩,
     ⟨"MAX_PRIORITY", "int", [.publicAccess, .static, .final]⟩]
  methods :=
    [⟨"start", [], [.publicAccess, .synchronized]⟩,
     ⟨"run", [], [.publicAccess]⟩,
     ⟨"interrupt", [], [.publicAccess]⟩,
     ⟨"isAlive", [], [.publicAccess, .final]⟩,
     ⟨"setName", ["java.lang.String"], [.publicAccess, .final]⟩,
     ⟨"getName", [], [.publicAccess, .final]⟩,
     ⟨"getState", [], [.publicAccess]⟩,
     ⟨"sleep", ["long"], [.publicAccess, .static]⟩,
     ⟨"currentThread", [], [.publicAccess, .static, .native]⟩,
     ⟨"join", [], [.publicAccess, .final]⟩]

/-- The type `java.lang.Thread$State`. -/
def threadState : Descriptor where
  name := "java.lang.Thread$State"
  kind := .enumType
  superclass := some "java.lang.Enum"
  fields :=
    [⟨"NEW", "java.lang.Thread$State", [.publicAccess, .static, .final]⟩,
     ⟨"RUNNABLE", "java.lang.Thread$State", [.publicAccess, .static, .final]⟩,
     ⟨"BLOCKED", "java.lang.Thread$State", [.publicAccess, .static, .final]⟩,
     ⟨"WAITING", "java.lang.Thread$State", [.publicAccess, .static, .final]⟩,
     ⟨"TIMED_WAITING", "java.lang.Thread$State", [.publicAccess, .static, .final]⟩,
     ⟨"TERMINATED", "java.lang.Thread$State", [.publicAccess, .static, .final]⟩,
     ⟨"$VALUES", "[Ljava.lang.Thread$State;", [.privateAccess, .static, .final]⟩]
  methods :=
    [⟨"values", [], [.publicAccess, .static]⟩,
     ⟨"valueOf", ["java.lang.String"], [.publicAccess, .static]⟩]

/-- The type `java.util.concurrent.TimeUnit`. -/
def timeUnit : Descriptor where
  name := "java.util.concurrent.TimeUnit"
  kind := .enumType
  superclass := some "java.lang.Enum"
  fields :=
    [⟨"NANOSECONDS", "java.util.concurrent.TimeUnit", [.publicAccess, .static, .final]⟩,
     ⟨"MICROSECONDS", "java.util.concurrent.TimeUnit", [.publicAccess, .static, .final]⟩,
     ⟨"MILLISECONDS", "java.util.concurrent.TimeUnit", [.publicAccess, .static, .final]⟩,
     ⟨"SECONDS", "java.util.concurrent.TimeUnit", [.publicAccess, .static, .final]⟩,
     ⟨"MINUTES", "java.util.concurrent.TimeUnit", [.publicAccess, .static, .final]⟩,
     ⟨"HOURS", "java.util.concurrent.TimeUnit", [.publicAccess, .static, .final]⟩,
     ⟨"DAYS", "java.util.concurrent.TimeUnit", [.publicAccess, .static, .final]⟩,
     ⟨"scale", "long", [.privateAccess, .final]⟩]
  methods :=
    [⟨"convert", ["long", "java.util.concurrent.TimeUnit"], [.publicAccess]⟩,
     ⟨"toNanos", ["long"], [.publicAccess]⟩,
     ⟨"toMillis", ["long"], [.publicAccess]⟩,
     ⟨"toSeconds", ["long"], [.publicAccess]⟩,
     ⟨"sleep", ["long"], [.publicAccess]⟩,
     ⟨"values", [], [.publicAccess, .static]⟩,
     ⟨"valueOf", ["java.lang.String"], [.publicAccess, .static]⟩]

/-- The type `java.lang.Iterable`. -/
def iterable : Descriptor where
  name := "java.lang.Iterable"
  kind := .interfaceType
  methods :=
    [⟨"iterator", [], [.publicAccess, .abstract]⟩,
     ⟨"forEach", ["java.util.function.Consumer"], [.publicAccess]⟩,
     ⟨"spliterator", [], [.publicAccess]⟩]

/-- The type `java.util.Collection`. -/
def collection : Descriptor where
  name := "java.util.Collection"
  kind := .interfaceType
  interfaces :=
    ["java.lang.Iterable"]
  methods :=
    [⟨"size", [], [.publicAccess, .abstract]⟩,
     ⟨"isEmpty", [], [.publicAccess, .abstract]⟩,
     ⟨"contains", ["java.lang.Object"], [.publicAccess, .abstract]⟩,
     ⟨"iterator", [], [.publicAccess, .abstract]⟩,
     ⟨"toArray", [], [.publicAccess, .abstract]⟩,
     ⟨"add", ["java.lang.Object"], [.publicAccess, .abstract]⟩,
     ⟨"remove", ["java.lang.Object"], [.publicAccess, .abstract]⟩,
     ⟨"clear", [], [.publicAccess, .abstract]⟩,
     ⟨"stream", [], [.publicAccess]⟩]

/-- The type `java.util.List`. -/
def list : Descriptor where
  name := "java.util.List"
  kind := .interfaceType
  interfaces :=
    ["java.util.Collection"]
  methods :=
    [⟨"get", ["int"], [.publicAccess, .abstract]⟩,
     ⟨"set", ["int", "java.lang.Object"], [.publicAccess, .abstract]⟩,
     ⟨"add", ["int", "java.lang.Object"], [.publicAccess, .abstract]⟩,
     ⟨"remove", ["int"], [.publicAccess, .abstract]⟩,
     ⟨"indexOf", ["java.lang.Object"], [.publicAccess, .abstract]⟩,
     ⟨"subList", ["int", "int"], [.publicAccess, .abstract]⟩,
     ⟨"of", [], [.publicAccess, .static]⟩,
     ⟨"sort", ["java.util.Comparator"], [.publicAccess]⟩]

/-- The type `java.util.RandomAccess`. -/
def randomAccess : Descriptor where
  name := "java.util.RandomAccess"
  kind := .interfaceType

/-- The type `java.util.AbstractCollection`. -/
def abstractCollection : Descriptor where
  name := "java.util.AbstractCollection"
  kind := .classType
  superclass := some "java.lang.Object"
  interfaces :=
    ["java.util.Collection"]
  methods :=
    [⟨"iterator", [], [.publicAccess, .abstract]⟩,
     ⟨"size", [], [.publicAccess, .abstract]⟩,
     ⟨"isEmpty", [], [.publicAccess]⟩,
     ⟨"contains", ["java.lang.Object"], [.publicAccess]⟩,
     ⟨"toString", [], [.publicAccess]⟩]

/-- The type `java.util.AbstractList`. -/
def abstractList : Descriptor where
  name := "java.util.AbstractList"
  kind := .classType
  superclass := some "java.util.AbstractCollection"
  interfaces :=
    ["java.util.List"]
  fields :=
    [⟨"modCount", "int", [.protectedAccess, .transient]⟩]
  methods :=
    [⟨"add", ["java.lang.Object"], [.publicAccess]⟩,
     ⟨"get", ["int"], [.publicAccess, .abstract]⟩,
     ⟨"iterator", [], [.publicAccess]⟩,
     ⟨"indexOf", ["java.lang.Object"], [.publicAccess]⟩,
     ⟨"clear", [], [.publicAccess]⟩,
     ⟨"hashCode", [], [.publicAccess]⟩,
     ⟨"equals", ["java.lang.Object"], [.publicAccess]⟩,
     ⟨"removeRange", ["int", "int"], [.protectedAccess]⟩]

/-- The type `java.util.ArrayList`. -/
def arrayList : Descriptor where
  name := "java.util.ArrayList"
  kind := .classType
  superclass := some "java.util.AbstractList"
  interfaces :=
    ["java.util.List", "java.util.RandomAccess", "java.lang.Cloneable", "java.io.Serializable"]
  fields :=
    [⟨"serialVersionUID", "long", [.privateAccess, .static, .final]⟩,
     ⟨"DEFAULT_CAPACITY", "int", [.privateAccess, .static, .final]⟩,
     ⟨"EMPTY_ELEMENTDATA", "[Ljava.lang.Object;", [.privateAccess, .static, .final]⟩,
     ⟨"elementData", "[Ljava.lang.Object;", [.transient]⟩,
     ⟨"size", "int", [.privateAccess]⟩]
  methods :=
    [⟨"trimToSize", [], [.publicAccess]⟩,
     ⟨"ensureCapacity", ["int"], [.publicAccess]⟩,
     ⟨"size", [], [.publicAccess]⟩,
     ⟨"isEmpty", [], [.publicAccess]⟩,
     ⟨"contains", ["java.lang.Object"], [.publicAccess]⟩,
     ⟨"indexOf", ["java.lang.Object"], [.publicAccess]⟩,
     ⟨"clone", [], [.publicAccess]⟩,
     ⟨"toArray", [], [.publicAccess]⟩,
     ⟨"get", ["int"], [.publicAccess]⟩,
     ⟨"set", ["int", "java.lang.Object"], [.publicAccess]⟩,
     ⟨"add", ["java.lang.Object"], [.publicAccess]⟩,
     ⟨"remove", ["int"], [.publicAccess]⟩,
     ⟨"clear", [], [.publicAccess]⟩,
     ⟨"grow", ["int"], [.privateAccess]⟩]

/-- The built-in types, in the order in which they enter the catalog. -/
def types : List Descriptor :=
  [object, serializable, cloneable, comparable, charSequence, constable, constantDesc, string,
    number, integer, enum, runnable, thread, threadState, timeUnit, iterable, collection, list,
    randomAccess, abstractCollection, abstractList, arrayList]

end Builtin

/-- The catalog of the built-in types. -/
def Catalog.builtin : Catalog := Catalog.ofList Builtin.types

end ClassDiagram
