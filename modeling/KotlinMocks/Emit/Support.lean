import KotlinMocks.Emit.Unit

/-!
# Shared support sources

Three fixed sources that every session writes once into the runtime package: the predicate
functions that stub queries take, and the two exceptions a stub throws when it has no answer.
Each is written after a `package` line for the runtime package, unless that package is the
root package.
-/

namespace KotlinMocks

/-- The exception thrown by a stub that has no behaviour. -/
def notConfiguredException : String := "MockNotConfiguredException"

/-- The exception thrown by a stub whose sequence of answers is used up. -/
def sequenceExhaustedException : String := "MockSequenceExhaustedException"

/-- A fixed source: its unit name and its text. -/
structure SupportFile where
  name : String
  content : String

/-- The predicate functions that stub queries take. -/
def predicatesFile : SupportFile where
  name := "Predicates"
  content := String.join [
    "/** A side-effect free test over a single value. */\n",
    "typealias Predicate<T> = (T) -> Boolean\n",
    "\n",
    "fun <T> anything(): Predicate<T> = \x7b true \x7d\n",
    "\n",
    "fun <T> equalTo(expected: T): Predicate<T> = \x7b it == expected \x7d\n",
    "\n",
    "fun <T> notEqualTo(unexpected: T): Predicate<T> = !equalTo(unexpected)\n",
    "\n",
    "fun <T> isNull(): Predicate<T?> = \x7b it == null \x7d\n",
    "\n",
    "fun <T> isNotNull(): Predicate<T?> = \x7b it != null \x7d\n",
    "\n",
    "fun <T : Comparable<T>> greaterThan(bound: T): Predicate<T> = \x7b it > bound \x7d\n",
    "\n",
    "fun <T : Comparable<T>> greaterOrEqual(bound: T): Predicate<T> = \x7b it >= bound \x7d\n",
    "\n",
    "fun <T : Comparable<T>> lessThan(bound: T): Predicate<T> = \x7b it < bound \x7d\n",
    "\n",
    "fun <T : Comparable<T>> lessOrEqual(bound: T): Predicate<T> = \x7b it <= bound \x7d\n",
    "\n",
    "fun <T> containing(element: T): Predicate<Collection<T>> = \x7b it.contains(element) \x7d\n",
    "\n",
    "fun <T> notContaining(element: T): Predicate<Collection<T>> = !containing(element)\n",
    "\n",
    "fun startingWith(prefix: CharSequence): Predicate<CharSequence> = \x7b it.startsWith(prefix) \x7d\n",
    "\n",
    "fun notStartingWith(prefix: CharSequence): Predicate<CharSequence> = !startingWith(prefix)\n",
    "\n",
    "fun startingWithIgnoringCase(prefix: CharSequence): Predicate<CharSequence> =\n",
    "    \x7b it.startsWith(prefix, ignoreCase = true) \x7d\n",
    "\n",
    "fun notStartingWithIgnoringCase(prefix: CharSequence): Predicate<CharSequence> =\n",
    "    !startingWithIgnoringCase(prefix)\n",
    "\n",
    "fun endingWith(suffix: CharSequence): Predicate<CharSequence> = \x7b it.endsWith(suffix) \x7d\n",
    "\n",
    "fun notEndingWith(suffix: CharSequence): Predicate<CharSequence> = !endingWith(suffix)\n",
    "\n",
    "fun endingWithIgnoringCase(suffix: CharSequence): Predicate<CharSequence> =\n",
    "    \x7b it.endsWith(suffix, ignoreCase = true) \x7d\n",
    "\n",
    "fun notEndingWithIgnoringCase(suffix: CharSequence): Predicate<CharSequence> =\n",
    "    !endingWithIgnoringCase(suffix)\n",
    "\n",
    "/** Evaluates both operands, always. */\n",
    "infix fun <T> Predicate<T>.and(other: Predicate<T>): Predicate<T> = \x7b this(it) and other(it) \x7d\n",
    "\n",
    "infix fun <T> Predicate<T>.shortCircuitAnd(other: Predicate<T>): Predicate<T> = \x7b this(it) && other(it) \x7d\n",
    "\n",
    "/** Evaluates both operands, always. */\n",
    "infix fun <T> Predicate<T>.or(other: Predicate<T>): Predicate<T> = \x7b this(it) or other(it) \x7d\n",
    "\n",
    "infix fun <T> Predicate<T>.shortCircuitOr(other: Predicate<T>): Predicate<T> = \x7b this(it) || other(it) \x7d\n",
    "\n",
    "infix fun <T> Predicate<T>.xor(other: Predicate<T>): Predicate<T> = \x7b this(it) xor other(it) \x7d\n",
    "\n",
    "operator fun <T> Predicate<T>.not(): Predicate<T> = \x7b !this(it) \x7d\n",
    "\n",
    "operator fun <T> Predicate<T>.times(other: Predicate<T>): Predicate<T> = shortCircuitAnd(other)\n",
    "\n",
    "operator fun <T> Predicate<T>.plus(other: Predicate<T>): Predicate<T> = shortCircuitOr(other)\n",
    "\n",
    "/** Rejects null, otherwise defers to this predicate. */\n",
    "fun <T : Any> Predicate<T>.requireNonNullAnd(): Predicate<T?> = \x7b it != null && this(it) \x7d\n",
    "\n",
    "/** Accepts null, otherwise defers to this predicate. */\n",
    "fun <T : Any> Predicate<T>.acceptNullOr(): Predicate<T?> = \x7b it == null || this(it) \x7d\n",
    "\n",
    "fun <T> Predicate<T>.forAll(): Predicate<Collection<T>> = \x7b values -> values.all(this) \x7d\n",
    "\n",
    "fun <T> Predicate<T>.forNotAll(): Predicate<Collection<T>> = !forAll()\n",
    "\n",
    "fun <T> Predicate<T>.forAny(): Predicate<Collection<T>> = \x7b values -> values.any(this) \x7d\n",
    "\n",
    "fun <T> Predicate<T>.forSome(): Predicate<Collection<T>> = forAny()\n",
    "\n",
    "fun <T> Predicate<T>.forNone(): Predicate<Collection<T>> = !forAny()\n",
    "\n",
    "fun <T> Predicate<T>.forExactlyOne(): Predicate<Collection<T>> = forExactlyN(1)\n",
    "\n",
    "fun <T> Predicate<T>.forExactlyN(n: Int): Predicate<Collection<T>> = \x7b values -> values.count(this) == n \x7d\n",
    "\n",
    "fun <T> Predicate<T>.forAtLeastN(n: Int): Predicate<Collection<T>> = \x7b values -> values.count(this) >= n \x7d\n",
    "\n",
    "fun <T> Predicate<T>.forAtMostN(n: Int): Predicate<Collection<T>> = \x7b values -> values.count(this) <= n \x7d\n",
    "\n",
    "/** Lets a predicate be written with the tested value as receiver. */\n",
    "fun <T> predicateWithReceiver(predicate: T.() -> Boolean): Predicate<T> = \x7b it.predicate() \x7d\n"]

/-- The exception of a stub with no behaviour. -/
def notConfiguredFile : SupportFile where
  name := notConfiguredException
  content := String.join [
    "/** Thrown when a stub is called before any behavior was configured, or after a reset. */\n",
    "class MockNotConfiguredException : RuntimeException(\"mock not configured\")\n"]

/-- The exception of a stub whose answers are used up. -/
def sequenceExhaustedFile : SupportFile where
  name := sequenceExhaustedException
  content := String.join [
    "/** Thrown when a sequence-configured stub is called after its last answer. */\n",
    "class MockSequenceExhaustedException(val answered: Int) :\n",
    "    RuntimeException(\"mock sequence exhausted after $answered answers\")\n"]

/-- Every support source, in the order they are written. -/
def supportFiles : List SupportFile := [predicatesFile, notConfiguredFile, sequenceExhaustedFile]

/-- The unit of a support source in a runtime package. -/
def SupportFile.toUnit (f : SupportFile) (runtimePackage : String) : GeneratedUnit where
  package := runtimePackage
  name := f.name
  dependency := .session
  text := if runtimePackage.isEmpty then f.content else "package " ++ runtimePackage ++ "\n\n" ++ f.content

/-- The support units for a runtime package, in the order they are written. -/
def supportUnits (runtimePackage : String) : List GeneratedUnit :=
  supportFiles.map (·.toUnit runtimePackage)

end KotlinMocks
