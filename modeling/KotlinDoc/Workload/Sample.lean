import KotlinDoc.Text.Basic

namespace KotlinDoc

namespace Workload

def sampleLines : List Text :=
  List.map String.toList
  ["/**",
   " * A plain top level function.",
   " * @author Someone",
   " * @since 1.0",
   " * @see Other",
   " * @sample demo",
   " * @return the answer",
   " * @throws RuntimeException on failure",
   " * @param a first value",
   " * @param[b] second value",
   " * ```",
   " * val x = topLevel(1, 2)",
   " * ```",
   " */",
   "public fun topLevel(a: Int, b: Int) : Int \x7b",
   "    return a + b",
   "\x7d",
   "",
   "external fun externalFun(x: Int) : Int \x7b",
   "\x7d",
   "",
   "/** Top var */",
   "var topVar : Int = 3",
   "",
   "private fun hidden() : Unit \x7b",
   "\x7d",
   "",
   "/**",
   " * Documented base class.",
   " * @property name the name of the thing",
   " * @property size how big it is",
   " * @param name the name of the thing",
   " * @param plain a plain non-var param",
   " */",
   "open class Base(val name: String, private var size: Int, open val ratio: Double, " ++
     "plain: Long, other) : Super, Another \x7b",
   "    /**",
   "     * A constructor.",
   "     * @param x value",
   "     */",
   "    constructor(x: Int) : this(\"\", x) \x7b",
   "    \x7d",
   "",
   "    /**",
   "     * An init block style method.",
   "     * @param y value",
   "     */",
   "    init(y: Int) \x7b",
   "    \x7d",
   "",
   "    /**",
   "     * A member function that",
   "     * spans multiple lines.",
   "     * @param a the a",
   "     * @param[b] the b",
   "     * @return something",
   "     * ```",
   "     * foo()",
   "     * ```",
   "     */",
   "    open fun compute(a: Int,",
   "                     b: Map<String, List<Int>>,",
   "                     c: (Int) -> Unit = \x7b it \x7d) : String \x7b",
   "        return \"x\"  // trailing comment",
   "    \x7d",
   "",
   "    /** suppressed member",
   "     @suppress",
   "     */",
   "    fun suppressed() : Unit \x7b",
   "    \x7d",
   "",
   "    internal fun internalFun() : Unit \x7b",
   "    \x7d",
   "",
   "    /** computed getter */",
   "    var computed : Int get() = 3",
   "",
   "    /** simple value */",
   "    val simple = 7",
   "",
   "    var inline : Int = 1 /**< inline documentation */",
   "",
   "    companion object \x7b",
   "        /** a static helper */",
   "        fun helper(z: Int) : Int \x7b",
   "            return z",
   "        \x7d",
   "        /** static constant */",
   "        val CONST : Int = 42",
   "    \x7d",
   "",
   "    // just a line comment to be stripped",
   "    /* a block comment to be stripped */",
   "",
   "    /**",
   "     * Nested enum.",
   "     */",
   "    enum class Color \x7b",
   "        RED(1),",
   "        GREEN,",
   "        BLUE(3)",
   "        /** after stop */",
   "        fun extra() : Unit \x7b",
   "        \x7d",
   "    \x7d",
   "\x7d",
   "",
   "/**",
   " * Documented data class with only a primary constructor.",
   " * @property x the x coord",
   " * @param y the y coord",
   " */",
   "data class Point(val x: Int, y: Int)",
   "",
   "/**",
   " * Documented interface.",
   " */",
   "public interface Shape : Drawable \x7b",
   "    /** area of the shape */",
   "    fun area() : Double \x7b",
   "    \x7d",
   "\x7d",
   "",
   "/**",
   " * Enum example.",
   " */",
   "enum class Direction : Navigable \x7b",
   "    /** heading north */",
   "    NORTH,",
   "    SOUTH(180),",
   "    EAST,",
   "    WEST(270)",
   "\x7d",
   "",
   "/**",
   " * Extension example.",
   " */",
   "internal extension Extra : BaseT \x7b",
   "    /** the extra fun */",
   "    fun more(q: Int = 5) : Int \x7b",
   "    \x7d",
   "\x7d",
   "",
   "/** Lone extension no super */",
   "extension Lonely \x7b",
   "    fun only() : Int \x7b",
   "    \x7d",
   "\x7d",
   "",
   "/**",
   " * Object singleton.",
   " */",
   "object Single \x7b",
   "    /** value */",
   "    val v : Int = 1",
   "\x7d",
   "",
   "/**",
   " * Sealed class variant.",
   " */",
   "sealed class Variant \x7b",
   "    fun nothing() \x7b",
   "    \x7d",
   "\x7d",
   "",
   "/**",
   " * Generic container.",
   " */",
   "class Box<T> : Container \x7b",
   "    /** generic method */",
   "    fun <T> put(item: T) : Unit \x7b",
   "    \x7d",
   "\x7d",
   "",
   "data class Empty()"]

def sampleText : Text :=
  sampleLines.flatMap (· ++ "\n")

end Workload

end KotlinDoc
