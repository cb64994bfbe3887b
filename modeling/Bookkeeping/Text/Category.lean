import Bookkeeping.Text.Runs

/-!
# General categories

Every code point has a general category with a code of two letters: `lu` for upper-case letters,
`nd` for decimal digits, and so on.  Categories whose codes begin alike make up a group, named by
that letter; `lc` stands for the letters that have a case.
-/

namespace Bookkeeping

namespace Text

/-- The categories of all code points. -/
def categoryLines : List String :=
  ["32cc 1zs 3po 1sc 3po 1ps 1pe 1po 1sm 1po 1pd 2po 10nd 2po 3sm 2po 26lu 1ps 1po 1pe 1sk 1pc",
   "1sk 26ll 1ps 1sm 1pe 1sm 33cc 1zs 1po 4sc 1so 1po 1sk 1so 1lo 1pi 1sm 1cf 1so 1sk 1so 1sm",
   "2no 1sk 1ll 2po 1sk 1no 1lo 1pf 3no 1po 23lu 1sm 7lu 24ll 1sm 8ll 1lu 1ll 1lu 1ll 1lu 1ll",
   "1lu 1ll 1lu 1ll 1lu 1ll 1lu 1ll 1lu 1ll 1lu 1ll 1lu 1ll 1lu 1ll 1lu 1ll 1lu 1ll 1lu 1ll 1lu",
   "1ll 1lu 1ll 1lu 1ll 1lu 1ll 1lu 1ll 1lu 1ll 1lu 1ll 1lu 1ll 1lu 1ll 1lu 1ll 1lu 1ll 1lu 1ll",
   "1lu 1ll 1lu 2ll 1lu 1ll 1lu 1ll 1lu 1ll 1lu 1ll 1lu 1ll 1lu 1ll 1lu 1ll 1lu 2ll 1lu 1ll 1lu",
   "1ll 1lu 1ll 1lu 1ll 1lu 1ll 1lu 1ll 1lu 1ll 1lu 1ll 1lu 1ll 1lu 1ll 1lu 1ll 1lu 1ll 1lu 1ll",
   "1lu 1ll 1lu 1ll 1lu 1ll 1lu 1ll 1lu 1ll 1lu 1ll 1lu 1ll 1lu 1ll 1lu 1ll 1lu 1ll 2lu 1ll 1lu",
   "1ll 1lu 3ll 2lu 1ll 1lu 1ll 2lu 1ll 3lu 2ll 4lu 1ll 2lu 1ll 3lu 3ll 2lu 1ll 2lu 1ll 1lu 1ll",
   "1lu 1ll 2lu 1ll 1lu 2ll 1lu 1ll 2lu 1ll 3lu 1ll 1lu 1ll 2lu 2ll 1lo 1lu 3ll 4lo 1lu 1lt 1ll",
   "1lu 1lt 1ll 1lu 1lt 1ll 1lu 1ll 1lu 1ll 1lu 1ll 1lu 1ll 1lu 1ll 1lu 1ll 1lu 1ll 1lu 2ll 1lu",
   "1ll 1lu 1ll 1lu 1ll 1lu 1ll 1lu 1ll 1lu 1ll 1lu 1ll 1lu 1ll 1lu 2ll 1lu 1lt 1ll 1lu 1ll 3lu",
   "1ll 1lu 1ll 1lu 1ll 1lu 1ll 1lu 1ll 1lu 1ll 1lu 1ll 1lu 1ll 1lu 1ll 1lu 1ll 1lu 1ll 1lu 1ll",
   "1lu 1ll 1lu 1ll 1lu 1ll 1lu 1ll 1lu 1ll 1lu 1ll 1lu 1ll 1lu 1ll 1lu 1ll 1lu 1ll 1lu 1ll 1lu",
   "1ll 1lu 1ll 1lu 1ll 1lu 1ll 1lu 1ll 1lu 1ll 1lu 7ll 2lu 1ll 2lu 2ll 1lu 1ll 4lu 1ll 1lu 1ll",
   "1lu 1ll 1lu 1ll 1lu 69ll 1lo 27ll 18lm 4sk 12lm 14sk 5lm 7sk 1lm 1sk 1lm 17sk 112mn 1lu 1ll",
   "1lu 1ll 1lm 1sk 1lu 1ll 2cn 1lm 3ll 1po 1lu 4cn 2sk 1lu 1po 3lu 1cn 1lu 1cn 2lu 1ll 17lu 1cn",
   "9lu 35ll 1lu 2ll 3lu 3ll 1lu 1ll 1lu 1ll 1lu 1ll 1lu 1ll 1lu 1ll 1lu 1ll 1lu 1ll 1lu 1ll 1lu",
   "1ll 1lu 1ll 1lu 1ll 1lu 5ll 1lu 1ll 1sm 1lu 1ll 2lu 2ll 51lu 48ll 1lu 1ll 1lu 1ll 1lu 1ll",
   "1lu 1ll 1lu 1ll 1lu 1ll 1lu 1ll 1lu 1ll 1lu 1ll 1lu 1ll 1lu 1ll 1lu 1ll 1lu 1ll 1lu 1ll 1lu",
   "1ll 1lu 1ll 1lu 1ll 1so 5mn 2me 1lu 1ll 1lu 1ll 1lu 1ll 1lu 1ll 1lu 1ll 1lu 1ll 1lu 1ll 1lu",
   "1ll 1lu 1ll 1lu 1ll 1lu 1ll 1lu 1ll 1lu 1ll 1lu 1ll 1lu 1ll 1lu 1ll 1lu 1ll 1lu 1ll 1lu 1ll",
   "1lu 1ll 1lu 1ll 1lu 1ll 1lu 1ll 1lu 1ll 1lu 1ll 1lu 1ll 1lu 1ll 2lu 1ll 1lu 1ll 1lu 1ll 1lu",
   "1ll 1lu 1ll 1lu 1ll 1lu 2ll 1lu 1ll 1lu 1ll 1lu 1ll 1lu 1ll 1lu 1ll 1lu 1ll 1lu 1ll 1lu 1ll",
   "1lu 1ll 1lu 1ll 1lu 1ll 1lu 1ll 1lu 1ll 1lu 1ll 1lu 1ll 1lu 1ll 1lu 1ll 1lu 1ll 1lu 1ll 1lu",
   "1ll 1lu 1ll 1lu 1ll 1lu 1ll 1lu 1ll 1lu 1ll 1lu 1ll 1lu 1ll 1lu 1ll 1lu 1ll 1lu 1ll 1lu 1ll",
   "1lu 1ll 1lu 1ll 1lu 1ll 1lu 1ll 1lu 1ll 1lu 1ll 1lu 1ll 1lu 1ll 1lu 1ll 1lu 1ll 1lu 1ll 1lu",
   "1ll 1lu 1ll 1lu 1ll 1lu 1ll 1lu 1ll 1lu 1ll 1cn 38lu 2cn 1lm 6po 41ll 1po 1pd 2cn 2so 1sc",
   "1cn 45mn 1pd 1mn 1po 2mn 1po 2mn 1po 1mn 8cn 27lo 4cn 4lo 2po 11cn 6cf 3sm 2po 1sc 2po 2so",
   "11mn 1po 1cf 3po 32lo 1lm 10lo 21mn 10nd 4po 2lo 1mn 99lo 1po 1lo 7mn 1cf 1so 6mn 2lm 2mn",
   "1so 4mn 2lo 10nd 3lo 2so 1lo 14po 1cn 1cf 1lo 1mn 30lo 27mn 2cn 89lo 11mn 1lo 14cn 10nd 33lo",
   "9mn 2lm 1so 3po 1lm 2cn 1mn 2sc 22lo 4mn 1lm 9mn 1lm 3mn 1lm 5mn 2cn 15po 1cn 25lo 3mn 2cn",
   "1po 1cn 11lo 5cn 24lo 1sk 6lo 1cn 2cf 5cn 9mn 41lo 1lm 24mn 1cf 32mn 1mc 54lo 1mn 1mc 1mn",
   "1lo 3mc 8mn 4mc 1mn 2mc 1lo 7mn 10lo 2mn 2po 10nd 1po 1lm 15lo 1mn 2mc 1cn 8lo 2cn 2lo 2cn",
   "22lo 1cn 7lo 1cn 1lo 3cn 4lo 2cn 1mn 1lo 3mc 4mn 2cn 2mc 2cn 2mc 1mn 1lo 8cn 1mc 4cn 2lo 1cn",
   "3lo 2mn 2cn 10nd 2lo 2sc 6no 1so 1sc 1lo 1po 1mn 2cn 2mn 1mc 1cn 6lo 4cn 2lo 2cn 22lo 1cn",
   "7lo 1cn 2lo 1cn 2lo 1cn 2lo 2cn 1mn 1cn 3mc 2mn 4cn 2mn 2cn 3mn 3cn 1mn 7cn 4lo 1cn 1lo 7cn",
   "10nd 2mn 3lo 1mn 1po 10cn 2mn 1mc 1cn 9lo 1cn 3lo 1cn 22lo 1cn 7lo 1cn 2lo 1cn 5lo 2cn 1mn",
   "1lo 3mc 5mn 1cn 2mn 1mc 1cn 2mc 1mn 2cn 1lo 15cn 2lo 2mn 2cn 10nd 1po 1sc 7cn 1lo 6mn 1cn",
   "1mn 2mc 1cn 8lo 2cn 2lo 2cn 22lo 1cn 7lo 1cn 2lo 1cn 5lo 2cn 1mn 1lo 1mc 1mn 1mc 4mn 2cn 2mc",
   "2cn 2mc 1mn 7cn 2mn 1mc 4cn 2lo 1cn 3lo 2mn 2cn 10nd 1so 1lo 6no 10cn 1mn 1lo 1cn 6lo 3cn",
   "3lo 1cn 4lo 3cn 2lo 1cn 1lo 1cn 2lo 3cn 2lo 3cn 3lo 3cn 12lo 4cn 2mc 1mn 2mc 3cn 3mc 1cn 3mc",
   "1mn 2cn 1lo 6cn 1mc 14cn 10nd 3no 6so 1sc 1so 5cn 1mn 3mc 1mn 8lo 1cn 3lo 1cn 23lo 1cn 16lo",
   "2cn 1mn 1lo 3mn 4mc 1cn 3mn 1cn 4mn 7cn 2mn 1cn 3lo 2cn 1lo 2cn 2lo 2mn 2cn 10nd 7cn 1po 7no",
   "1so 1lo 1mn 2mc 1po 8lo 1cn 3lo 1cn 23lo 1cn 10lo 1cn 5lo 2cn 1mn 1lo 1mc 1mn 5mc 1cn 1mn",
   "2mc 1cn 2mc 2mn 7cn 2mc 6cn 2lo 1cn 2lo 2mn 2cn 10nd 1cn 2lo 1mc 12cn 2mn 2mc 9lo 1cn 3lo",
   "1cn 41lo 2mn 1lo 3mc 4mn 1cn 3mc 1cn 3mc 1mn 1lo 1so 4cn 3lo 1mc 7no 3lo 2mn 2cn 10nd 9no",
   "1so 6lo 1cn 1mn 2mc 1cn 18lo 3cn 24lo 1cn 9lo 1cn 1lo 2cn 7lo 3cn 1mn 4cn 3mc 3mn 1cn 1mn",
   "1cn 8mc 6cn 10nd 2cn 2mc 1po 12cn 48lo 1mn 2lo 7mn 4cn 1sc 6lo 1lm 8mn 1po 10nd 2po 37cn 2lo",
   "1cn 1lo 1cn 5lo 1cn 24lo 1cn 1lo 1cn 10lo 1mn 2lo 9mn 1lo 2cn 5lo 1cn 1lm 1cn 7mn 1cn 10nd",
   "2cn 4lo 32cn 1lo 3so 15po 1so 1po 3so 2mn 6so 10nd 10no 1so 1mn 1so 1mn 1so 1mn 1ps 1pe 1ps",
   "1pe 2mc 8lo 1cn 36lo 4cn 14mn 1mc 5mn 1po 2mn 5lo 11mn 1cn 36mn 1cn 8so 1mn 6so 1cn 2so 5po",
   "4so 2po 37cn 43lo 2mc 4mn 1mc 6mn 1mc 2mn 2mc 2mn 1lo 10nd 6po 6lo 2mc 2mn 4lo 3mn 1lo 3mc",
   "2lo 7mc 3lo 4mn 13lo 1mn 2mc 2mn 6mc 1mn 1lo 1mc 10nd 3mc 1mn 2so 38lu 1cn 1lu 5cn 1lu 2cn",
   "43ll 1po 1lm 3ll 329lo 1cn 4lo 2cn 7lo 1cn 1lo 1cn 4lo 2cn 41lo 1cn 4lo 2cn 33lo 1cn 4lo 2cn",
   "7lo 1cn 1lo 1cn 4lo 2cn 15lo 1cn 57lo 1cn 4lo 2cn 67lo 2cn 3mn 9po 20no 3cn 16lo 10so 6cn",
   "86lu 2cn 6ll 2cn 1pd 620lo 1so 1po 17lo 1zs 26lo 1ps 1pe 3cn 75lo 3po 3nl 8lo 7cn 18lo 3mn",
   "1mc 9cn 19lo 2mn 1mc 2po 9cn 18lo 2mn 12cn 13lo 1cn 3lo 1cn 2mn 12cn 52lo 2mn 1mc 7mn 8mc",
   "1mn 2mc 11mn 3po 1lm 3po 1sc 1lo 1mn 2cn 10nd 6cn 10no 6cn 6po 1pd 4po 3mn 1cf 1mn 10nd 6cn",
   "35lo 1lm 53lo 7cn 5lo 2mn 34lo 1mn 1lo 5cn 70lo 10cn 31lo 1cn 3mn 4mc 2mn 3mc 4cn 2mc 1mn",
   "6mc 3mn 4cn 1so 3cn 2po 10nd 30lo 2cn 5lo 11cn 44lo 4cn 26lo 6cn 10nd 1no 3cn 34so 23lo 2mn",
   "2mc 1mn 2cn 2po 53lo 1mc 1mn 1mc 7mn 1cn 1mn 1mc 1mn 2mc 8mn 6mc 10mn 2cn 1mn 10nd 6cn 10nd",
   "6cn 7po 1lm 6po 2cn 14mn 1me 16mn 49cn 4mn 1mc 47lo 1mn 1mc 5mn 1mc 1mn 5mc 1mn 2mc 8lo 1cn",
   "2po 10nd 7po 10so 9mn 9so 3po 2mn 1mc 30lo 1mc 4mn 2mc 2mn 1mc 3mn 2lo 10nd 44lo 1mn 1mc 2mn",
   "3mc 1mn 1mc 3mn 2mc 8cn 4po 36lo 8mc 8mn 2mc 2mn 3cn 5po 10nd 3cn 3lo 10nd 30lo 6lm 2po 9ll",
   "1lu 1ll 5cn 43lu 2cn 3lu 8po 8cn 3mn 1po 13mn 1mc 7mn 4lo 1mn 6lo 1mn 2lo 1mc 2mn 1lo 5cn",
   "44ll 63lm 13ll 1lm 34ll 37lm 64mn 1lu 1ll 1lu 1ll 1lu 1ll 1lu 1ll 1lu 1ll 1lu 1ll 1lu 1ll",
   "1lu 1ll 1lu 1ll 1lu 1ll 1lu 1ll 1lu 1ll 1lu 1ll 1lu 1ll 1lu 1ll 1lu 1ll 1lu 1ll 1lu 1ll 1lu",
   "1ll 1lu 1ll 1lu 1ll 1lu 1ll 1lu 1ll 1lu 1ll 1lu 1ll 1lu 1ll 1lu 1ll 1lu 1ll 1lu 1ll 1lu 1ll",
   "1lu 1ll 1lu 1ll 1lu 1ll 1lu 1ll 1lu 1ll 1lu 1ll 1lu 1ll 1lu 1ll 1lu 1ll 1lu 1ll 1lu 1ll 1lu",
   "1ll 1lu 1ll 1lu 1ll 1lu 1ll 1lu 1ll 1lu 1ll 1lu 1ll 1lu 1ll 1lu 1ll 1lu 1ll 1lu 1ll 1lu 1ll",
   "1lu 1ll 1lu 1ll 1lu 1ll 1lu 1ll 1lu 1ll 1lu 1ll 1lu 1ll 1lu 1ll 1lu 1ll 1lu 1ll 1lu 1ll 1lu",
   "1ll 1lu 1ll 1lu 1ll 1lu 1ll 1lu 1ll 1lu 1ll 1lu 1ll 1lu 1ll 1lu 1ll 1lu 1ll 1lu 9ll 1lu 1ll",
   "1lu 1ll 1lu 1ll 1lu 1ll 1lu 1ll 1lu 1ll 1lu 1ll 1lu 1ll 1lu 1ll 1lu 1ll 1lu 1ll 1lu 1ll 1lu",
   "1ll 1lu 1ll 1lu 1ll 1lu 1ll 1lu 1ll 1lu 1ll 1lu 1ll 1lu 1ll 1lu 1ll 1lu 1ll 1lu 1ll 1lu 1ll",
   "1lu 1ll 1lu 1ll 1lu 1ll 1lu 1ll 1lu 1ll 1lu 1ll 1lu 1ll 1lu 1ll 1lu 1ll 1lu 1ll 1lu 1ll 1lu",
   "1ll 1lu 1ll 1lu 1ll 1lu 1ll 1lu 1ll 1lu 1ll 1lu 1ll 1lu 1ll 1lu 1ll 1lu 1ll 1lu 1ll 1lu 1ll",
   "1lu 1ll 1lu 9ll 8lu 6ll 2cn 6lu 2cn 8ll 8lu 8ll 8lu 6ll 2cn 6lu 2cn 8ll 1cn 1lu 1cn 1lu 1cn",
   "1lu 1cn 1lu 8ll 8lu 14ll 2cn 8ll 8lt 8ll 8lt 8ll 8lt 5ll 1cn 2ll 4lu 1lt 1sk 1ll 3sk 3ll 1cn",
   "2ll 4lu 1lt 3sk 4ll 2cn 2ll 4lu 1cn 3sk 8ll 5lu 3sk 2cn 3ll 1cn 2ll 4lu 1lt 2sk 1cn 11zs 5cf",
   "6pd 2po 1pi 1pf 1ps 2pi 1pf 1ps 1pi 8po 1zl 1zp 5cf 1zs 9po 1pi 1pf 4po 2pc 3po 1sm 1ps 1pe",
   "11po 1sm 1po 1pc 10po 1zs 5cf 1cn 10cf 1no 1lm 2cn 6no 3sm 1ps 1pe 1lm 10no 3sm 1ps 1pe 1cn",
   "13lm 3cn 33sc 15cn 13mn 4me 1mn 3me 12mn 15cn 2so 1lu 4so 1lu 2so 1ll 3lu 2ll 3lu 1ll 1so",
   "1lu 2so 1sm 5lu 6so 1lu 1so 1lu 1so 1lu 1so 4lu 1so 1ll 4lu 1ll 4lo 1ll 2so 2ll 2lu 5sm 1lu",
   "4ll 1so 1sm 2so 1ll 1so 16no 35nl 1lu 1ll 4nl 1no 2so 4cn 5sm 5so 2sm 4so 1sm 2so 1sm 2so",
   "1sm 7so 1sm 31so 2sm 2so 1sm 1so 1sm 31so 268sm 8so 1ps 1pe 1ps 1pe 20so 2sm 7so 1ps 1pe",
   "81so 1sm 30so 25sm 40so 6sm 72so 22cn 11so 21cn 60no 78so 22no 183so 1sm 9so 1sm 54so 8sm",
   "111so 1sm 248so 1ps 1pe 1ps 1pe 1ps 1pe 1ps 1pe 1ps 1pe 1ps 1pe 1ps 1pe 30no 44so 5sm 1ps",
   "1pe 31sm 1ps 1pe 1ps 1pe 1ps 1pe 1ps 1pe 1ps 1pe 16sm 256so 131sm 1ps 1pe 1ps 1pe 1ps 1pe",
   "1ps 1pe 1ps 1pe 1ps 1pe 1ps 1pe 1ps 1pe 1ps 1pe 1ps 1pe 1ps 1pe 63sm 1ps 1pe 1ps 1pe 32sm",
   "1ps 1pe 258sm 48so 21sm 2so 6sm 39so 2cn 32so 1cn 105so 48lu 48ll 1lu 1ll 3lu 2ll 1lu 1ll",
   "1lu 1ll 1lu 1ll 4lu 1ll 1lu 2ll 1lu 6ll 2lm 3lu 1ll 1lu 1ll 1lu 1ll 1lu 1ll 1lu 1ll 1lu 1ll",
   "1lu 1ll 1lu 1ll 1lu 1ll 1lu 1ll 1lu 1ll 1lu 1ll 1lu 1ll 1lu 1ll 1lu 1ll 1lu 1ll 1lu 1ll 1lu",
   "1ll 1lu 1ll 1lu 1ll 1lu 1ll 1lu 1ll 1lu 1ll 1lu 1ll 1lu 1ll 1lu 1ll 1lu 1ll 1lu 1ll 1lu 1ll",
   "1lu 1ll 1lu 1ll 1lu 1ll 1lu 1ll 1lu 1ll 1lu 1ll 1lu 1ll 1lu 1ll 1lu 1ll 1lu 1ll 1lu 1ll 1lu",
   "1ll 1lu 1ll 1lu 1ll 1lu 1ll 1lu 1ll 1lu 1ll 1lu 1ll 1lu 1ll 1lu 1ll 1lu 2ll 6so 1lu 1ll 1lu",
   "1ll 3mn 1lu 1ll 5cn 4po 1no 2po 38ll 1cn 1ll 5cn 1ll 2cn 56lo 7cn 1lm 1po 14cn 1mn 23lo 9cn",
   "7lo 1cn 7lo 1cn 7lo 1cn 7lo 1cn 7lo 1cn 7lo 1cn 7lo 1cn 7lo 1cn 32mn 2po 1pi 1pf 1pi 1pf 3po",
   "1pi 1pf 1po 1pi 1pf 9po 1pd 2po 1pd 1po 1pi 1pf 2po 1pi 1pf 1ps 1pe 1ps 1pe 1ps 1pe 1ps 1pe",
   "5po 1lm 10po 2pd 4po 1pd 1po 1ps 13po 2so 3po 1ps 1pe 1ps 1pe 1ps 1pe 1ps 1pe 1pd 34cn 26so",
   "1cn 89so 12cn 214so 26cn 16so 1zs 3po 1so 1lm 1lo 1nl 1ps 1pe 1ps 1pe 1ps 1pe 1ps 1pe 1ps",
   "1pe 2so 1ps 1pe 1ps 1pe 1ps 1pe 1ps 1pe 1pd 1ps 2pe 1so 9nl 4mn 2mc 1pd 5lm 2so 3nl 1lm 1lo",
   "1po 2so 1cn 86lo 2cn 2mn 2sk 2lm 1lo 1pd 90lo 1po 3lm 1lo 5cn 43lo 1cn 94lo 1cn 2so 4no 10so",
   "32lo 38so 9cn 1so 16lo 31so 1cn 10no 30so 8no 1so 15no 32so 10no 39so 15no 320so 6592lo 64so",
   "21013lo 1lm 1143lo 3cn 55so 9cn 40lo 6lm 2po 268lo 1lm 3po 16lo 10nd 2lo 20cn 1lu 1ll 1lu",
   "1ll 1lu 1ll 1lu 1ll 1lu 1ll 1lu 1ll 1lu 1ll 1lu 1ll 1lu 1ll 1lu 1ll 1lu 1ll 1lu 1ll 1lu 1ll",
   "1lu 1ll 1lu 1ll 1lu 1ll 1lu 1ll 1lu 1ll 1lu 1ll 1lu 1ll 1lu 1ll 1lu 1ll 1lu 1ll 1lo 1mn 3me",
   "1po 10mn 1po 1lm 1lu 1ll 1lu 1ll 1lu 1ll 1lu 1ll 1lu 1ll 1lu 1ll 1lu 1ll 1lu 1ll 1lu 1ll 1lu",
   "1ll 1lu 1ll 1lu 1ll 1lu 1ll 1lu 1ll 2lm 2mn 70lo 10nl 2mn 6po 8cn 23sk 9lm 2sk 1lu 1ll 1lu",
   "1ll 1lu 1ll 1lu 1ll 1lu 1ll 1lu 1ll 1lu 3ll 1lu 1ll 1lu 1ll 1lu 1ll 1lu 1ll 1lu 1ll 1lu 1ll",
   "1lu 1ll 1lu 1ll 1lu 1ll 1lu 1ll 1lu 1ll 1lu 1ll 1lu 1ll 1lu 1ll 1lu 1ll 1lu 1ll 1lu 1ll 1lu",
   "1ll 1lu 1ll 1lu 1ll 1lu 1ll 1lu 1ll 1lu 1ll 1lu 1ll 1lu 1ll 1lu 1ll 1lu 1ll 1lu 1ll 1lu 1ll",
   "1lu 1ll 1lu 1ll 1lm 8ll 1lu 1ll 1lu 1ll 2lu 1ll 1lu 1ll 1lu 1ll 1lu 1ll 1lu 1ll 1lm 2sk 1lu",
   "1ll 1lu 1ll 1lo 1lu 1ll 1lu 3ll 1lu 1ll 1lu 1ll 1lu 1ll 1lu 1ll 1lu 1ll 1lu 1ll 1lu 1ll 1lu",
   "1ll 1lu 1ll 1lu 1ll 5lu 1ll 5lu 1ll 1lu 1ll 1lu 1ll 1lu 1ll 1lu 1ll 1lu 1ll 1lu 1ll 1lu 1ll",
   "4lu 1ll 1lu 1ll 2lu 1ll 2cn 1lu 1ll 1cn 1ll 1cn 1ll 1lu 1ll 1lu 1ll 1lu 1ll 1lu 21cn 3lm 1lu",
   "1ll 1lo 2lm 1ll 7lo 1mn 3lo 1mn 4lo 1mn 23lo 2mc 2mn 1mc 4so 1mn 3cn 6no 2so 1sc 1so 6cn",
   "52lo 4po 8cn 2mc 50lo 16mc 2mn 8cn 2po 10nd 6cn 18mn 6lo 3po 1lo 1po 2lo 1mn 10nd 28lo 8mn",
   "2po 23lo 11mn 2mc 11cn 1po 29lo 3cn 3mn 1mc 47lo 1mn 2mc 4mn 2mc 2mn 3mc 13po 1cn 1lm 10nd",
   "4cn 2po 5lo 1mn 1lm 9lo 10nd 5lo 1cn 41lo 6mn 2mc 2mn 2mc 2mn 9cn 3lo 1mn 8lo 1mn 1mc 2cn",
   "10nd 2cn 4po 16lo 1lm 6lo 3so 1lo 1mc 1mn 1mc 50lo 1mn 1lo 3mn 2lo 2mn 5lo 2mn 1lo 1mn 1lo",
   "24cn 2lo 1lm 2po 11lo 1mc 2mn 2mc 2po 1lo 2lm 1mc 1mn 10cn 6lo 2cn 6lo 2cn 6lo 9cn 7lo 1cn",
   "7lo 1cn 43ll 1sk 4lm 9ll 1lm 2sk 4cn 80ll 35lo 2mc 1mn 2mc 1mn 2mc 1po 1mc 1mn 2cn 10nd 6cn",
   "11172lo 12cn 23lo 4cn 49lo 4cn 2048cs 6400co 366lo 2cn 106lo 38cn 7ll 12cn 5ll 5cn 1lo 1mn",
   "10lo 1sm 13lo 1cn 5lo 1cn 1lo 1cn 2lo 1cn 2lo 1cn 108lo 17sk 16cn 363lo 1pe 1ps 16so 64lo",
   "2cn 54lo 7cn 1so 32cn 12lo 1sc 3so 16mn 7po 1ps 1pe 1po 6cn 16mn 1po 2pd 2pc 1ps 1pe 1ps 1pe",
   "1ps 1pe 1ps 1pe 1ps 1pe 1ps 1pe 1ps 1pe 1ps 1pe 2po 1ps 1pe 4po 3pc 3po 1cn 4po 1pd 1ps 1pe",
   "1ps 1pe 1ps 1pe 3po 1sm 1pd 3sm 1cn 1po 1sc 2po 4cn 5lo 1cn 135lo 2cn 1cf 1cn 3po 1sc 3po",
   "1ps 1pe 1po 1sm 1po 1pd 2po 10nd 2po 3sm 2po 26lu 1ps 1po 1pe 1sk 1pc 1sk 26ll 1ps 1sm 1pe",
   "1sm 1ps 1pe 1po 1ps 1pe 2po 10lo 1lm 45lo 2lm 31lo 3cn 6lo 2cn 6lo 2cn 6lo 2cn 3lo 3cn 2sc",
   "1sm 1sk 1so 2sc 1cn 1so 4sm 2so 10cn 3cf 2so 2cn 12lo 1cn 26lo 1cn 19lo 1cn 2lo 1cn 15lo 2cn",
   "14lo 34cn 123lo 5cn 3po 4cn 45no 3cn 9so 53nl 4no 17so 2no 3so 1cn 13so 3cn 1so 47cn 45so",
   "1mn 130cn 29lo 3cn 49lo 15cn 1mn 27no 4cn 32lo 4no 9cn 20lo 1nl 8lo 1nl 5cn 38lo 5mn 5cn",
   "30lo 1cn 1po 36lo 4cn 8lo 1po 5nl 42cn 40lu 40ll 78lo 2cn 10nd 6cn 36lu 4cn 36ll 4cn 40lo",
   "8cn 52lo 11cn 1po 11lu 1cn 15lu 1cn 7lu 1cn 2lu 1cn 11ll 1cn 15ll 1cn 7ll 1cn 2ll 3cn 52lo",
   "12cn 311lo 9cn 22lo 10cn 8lo 24cn 6lm 1cn 42lm 1cn 9lm 69cn 6lo 2cn 1lo 1cn 44lo 1cn 2lo 3cn",
   "1lo 2cn 23lo 1cn 1po 8no 23lo 2so 7no 31lo 8cn 9no 48cn 19lo 1cn 2lo 5cn 5no 22lo 6no 3cn",
   "1po 26lo 5cn 1po 64cn 56lo 4cn 2no 2lo 16no 2cn 46no 1lo 3mn 1cn 2mn 5cn 4mn 4lo 1cn 3lo 1cn",
   "29lo 2cn 3mn 4cn 1mn 9no 7cn 9po 7cn 29lo 2no 1po 29lo 3no 32cn 8lo 1so 28lo 2mn 4cn 5no 7po",
   "9cn 54lo 3cn 7po 22lo 2cn 8no 19lo 5cn 8no 18lo 7cn 4po 12cn 7no 80cn 73lo 55cn 51lu 13cn",
   "51ll 7cn 6no 36lo 4mn 8cn 10nd 6cn 10nd 4lo 1lm 1lo 22lu 3cn 5mn 1pd 1lm 22ll 8cn 2sm 208cn",
   "31no 1cn 42lo 1cn 2mn 1pd 2cn 2lo 16cn 3lo 55cn 4mn 29lo 10no 1lo 8cn 22lo 11mn 4no 5po 22cn",
   "18lo 4mn 4po 38cn 21lo 7no 20cn 23lo 9cn 1mc 1mn 1mc 53lo 15mn 7po 4cn 20no 10nd 1mn 2lo 2mn",
   "1lo 9cn 3mn 1mc 45lo 3mc 4mn 2mc 2mn 2po 1cf 4po 1mn 10cn 1cf 2cn 25lo 7cn 10nd 6cn 3mn 36lo",
   "5mn 1mc 8mn 1cn 10nd 4po 1lo 2mc 1lo 8cn 35lo 1mn 2po 1lo 9cn 2mn 1mc 48lo 3mc 9mn 2mc 4lo",
   "4po 4mn 1po 1mc 1mn 10nd 1lo 1po 1lo 3po 1cn 20no 11cn 18lo 1cn 25lo 3mc 3mn 2mc 1mn 1mc 2mn",
   "6po 1mn 2lo 1mn 62cn 7lo 1cn 1lo 1cn 4lo 1cn 15lo 1cn 10lo 1po 6cn 47lo 1mn 3mc 8mn 5cn 10nd",
   "6cn 2mn 2mc 1cn 8lo 2cn 2lo 2cn 22lo 1cn 7lo 1cn 2lo 1cn 5lo 1cn 2mn 1lo 2mc 1mn 4mc 2cn 2mc",
   "2cn 3mc 2cn 1lo 6cn 1mc 5cn 5lo 2mc 2cn 7mn 3cn 5mn 11cn 10lo 1cn 1lo 2cn 1lo 1cn 38lo 1cn",
   "1lo 3mc 6mn 1cn 1mc 2cn 1mc 1cn 4mc 1cn 2mc 1mn 1mc 1mn 1lo 1mn 1lo 2po 1cn 2po 8cn 2mn 29cn",
   "53lo 3mc 8mn 2mc 3mn 1mc 1mn 4lo 5po 10nd 2po 1cn 1po 1mn 3lo 30cn 48lo 3mc 6mn 1mc 1mn 4mc",
   "2mn 1mc 2mn 2lo 1po 1lo 8cn 10nd 166cn 47lo 3mc 4mn 2cn 4mc 2mn 1mc 2mn 23po 4lo 2mn 34cn",
   "48lo 3mc 8mn 2mc 1mn 1mc 2mn 3po 1lo 11cn 10nd 6cn 13po 19cn 43lo 1mn 1mc 1mn 2mc 6mn 1mc",
   "1mn 1lo 1po 6cn 10nd 6cn 20nd 28cn 27lo 2cn 1mn 1mc 1mn 2mc 4mn 1mc 5mn 4cn 10nd 2no 3po 1so",
   "7lo 185cn 44lo 3mc 9mn 1mc 2mn 1po 100cn 32lu 32ll 10nd 9no 12cn 8lo 2cn 1lo 2cn 8lo 1cn 2lo",
   "1cn 24lo 6mc 1cn 2mc 2cn 2mn 1mc 1mn 1lo 1mc 1lo 1mc 1mn 3po 9cn 10nd 70cn 8lo 2cn 39lo 3mc",
   "4mn 2cn 2mn 4mc 1mn 1lo 1po 1lo 1mc 27cn 1lo 10mn 40lo 6mn 1mc 1lo 4mn 8po 1mn 8cn 1lo 6mn",
   "2mc 3mn 46lo 13mn 1mc 2mn 3po 1lo 5po 13cn 73lo 7cn 10po 182cn 33lo 1po 14cn 10nd 6cn 9lo",
   "1cn 37lo 1mc 7mn 1cn 6mn 1mc 1mn 1lo 5po 10cn 10nd 19no 3cn 2po 30lo 2cn 22mn 1cn 1mc 7mn",
   "1mc 2mn 1mc 2mn 73cn 7lo 1cn 2lo 1cn 38lo 6mn 3cn 1mn 1cn 2mn 1cn 7mn 1lo 1mn 8cn 10nd 6cn",
   "6lo 1cn 2lo 1cn 32lo 5mc 1cn 2mn 1cn 2mc 1mn 1mc 1mn 1lo 7cn 10nd 310cn 19lo 2mn 2mc 2po 7cn",
   "2mn 1lo 1mc 13lo 1cn 34lo 2mc 5mn 3cn 2mc 1mn 1mc 1mn 13po 10nd 1mn 85cn 1lo 15cn 21no 8so",
   "4sc 17so 13cn 1po 922lo 102cn 111nl 1cn 5po 11cn 196lo 2636cn 97lo 2po 13cn 1072lo 16cf 1mn",
   "6lo 15mn 10cn 3995lo 5cn 583lo 6841cn 30lo 12mn 3mc 3mn 10nd 1734cn 569lo 7cn 31lo 1cn 10nd",
   "4cn 2po 79lo 1cn 10nd 6cn 30lo 2cn 5mn 1po 10cn 48lo 7mn 5po 4so 4lm 1po 1so 10cn 10nd 1cn",
   "7no 1cn 21lo 5cn 19lo 432cn 3lm 40lo 2lm 3po 10nd 198cn 32lu 32ll 23no 4po 101cn 75lo 4cn",
   "1mn 1lo 55mc 7cn 4mn 13lm 64cn 2lm 1po 1lm 1mn 11cn 2mc 14cn 6136lo 8cn 1238lo 41cn 10lo",
   "8935cn 4lm 1cn 7lm 1cn 2lm 1cn 291lo 15cn 1lo 29cn 3lo 2cn 1lo 14cn 4lo 8cn 396lo 2308cn",
   "107lo 5cn 13lo 3cn 9lo 7cn 10lo 2cn 1so 2mn 1po 4cf 3932cn 240so 10nd 6cn 436so 76cn 46mn",
   "2cn 23mn 9cn 116so 60cn 246so 10cn 39so 2cn 60so 2mc 3mn 3so 6mc 8cf 8mn 2so 7mn 30so 4mn",
   "61so 21cn 66so 3mn 1so 122cn 20no 12cn 20no 12cn 87so 9cn 25no 135cn 26lu 26ll 26lu 7ll 1cn",
   "18ll 26lu 26ll 1lu 1cn 2lu 2cn 1lu 2cn 2lu 2cn 4lu 1cn 8lu 4ll 1cn 1ll 1cn 7ll 1cn 11ll 26lu",
   "26ll 2lu 1cn 4lu 2cn 8lu 1cn 7lu 1cn 26ll 2lu 1cn 4lu 1cn 5lu 1cn 1lu 3cn 7lu 1cn 26ll 26lu",
   "26ll 26lu 26ll 26lu 26ll 26lu 26ll 26lu 26ll 26lu 28ll 2cn 25lu 1sm 25ll 1sm 6ll 25lu 1sm",
   "25ll 1sm 6ll 25lu 1sm 25ll 1sm 6ll 25lu 1sm 25ll 1sm 6ll 25lu 1sm 25ll 1sm 6ll 1lu 1ll 2cn",
   "50nd 512so 55mn 4so 50mn 8so 1mn 14so 1mn 2so 5po 15cn 5mn 1cn 15mn 1104cn 10ll 1lo 20ll 6cn",
   "6ll 213cn 7mn 1cn 17mn 2cn 7mn 1cn 2mn 1cn 5mn 5cn 62lm 33cn 1mn 112cn 45lo 3cn 7mn 7lm 2cn",
   "10nd 4cn 1lo 1so 320cn 30lo 1mn 17cn 44lo 4mn 10nd 5cn 1sc 464cn 27lo 1lm 4mn 10nd 214cn",
   "30lo 2mn 1lo 10nd 4cn 1po 480cn 7lo 1cn 4lo 1cn 2lo 1cn 15lo 1cn 197lo 2cn 9no 7mn 41cn 34lu",
   "34ll 7mn 1lm 4cn 10nd 4cn 2po 785cn 59no 1so 3no 1sc 4no 76cn 45no 1so 15no 194cn 4lo 1cn",
   "27lo 1cn 2lo 1cn 1lo 2cn 1lo 1cn 10lo 1cn 4lo 1cn 1lo 1cn 1lo 6cn 1lo 4cn 1lo 1cn 1lo 1cn",
   "1lo 1cn 3lo 1cn 2lo 1cn 1lo 2cn 1lo 1cn 1lo 1cn 1lo 1cn 1lo 1cn 1lo 1cn 2lo 1cn 1lo 2cn 4lo",
   "1cn 7lo 1cn 4lo 1cn 4lo 1cn 1lo 1cn 10lo 1cn 17lo 5cn 3lo 1cn 5lo 1cn 17lo 52cn 2sm 270cn",
   "44so 4cn 100so 12cn 15so 2cn 15so 1cn 15so 1cn 37so 10cn 13no 161so 56cn 29so 13cn 44so 4cn",
   "9so 7cn 2so 14cn 6so 154cn 251so 5sk 728so 4cn 17so 3cn 13so 3cn 119so 4cn 95so 6cn 12so 4cn",
   "1so 15cn 12so 4cn 56so 8cn 10so 6cn 40so 8cn 30so 2cn 12so 4cn 2so 62cn 340so 12cn 14so 2cn",
   "13so 3cn 10so 5cn 56so 7cn 15so 2cn 11so 6cn 9so 7cn 147so 1cn 92so 10nd 1030cn 42720lo 32cn",
   "4154lo 6cn 222lo 2cn 5762lo 14cn 7473lo 15cn 622lo 2466cn 542lo 1506cn 4939lo 5cn 4192lo",
   "711761cn 1cf 30cn 96cf 128cn 240mn 65040cn 65534co 2cn 65534co 2cn"]

/-- The categories of all code points, by runs. -/
def categoryRuns : List Run := Run.ofLines categoryLines

/-- The characters of some categories, which are given by their codes. -/
def CharSet.ofCategories (codes : List String) : CharSet := .ofRuns codes.contains categoryRuns

/-- The codes of the categories of characters. -/
def categoryCodes : List String :=
  ["lu", "ll", "lt", "lm", "lo", "mn", "mc", "me", "nd", "nl", "no", "pc", "pd", "ps", "pe",
   "pi", "pf", "po", "sm", "sc", "sk", "so", "zs", "zl", "zp", "cc", "cf", "co", "cn"]

/-- The other names of categories and groups, with their codes. -/
def categoryNames : List (String × String) :=
  [("casedletter", "lc"), ("closepunctuation", "pe"), ("cntrl", "cc"), ("combiningmark", "m"),
   ("connectorpunctuation", "pc"), ("control", "cc"), ("currencysymbol", "sc"),
   ("dashpunctuation", "pd"), ("decimalnumber", "nd"), ("digit", "nd"),
   ("enclosingmark", "me"), ("finalpunctuation", "pf"), ("format", "cf"),
   ("initialpunctuation", "pi"), ("letter", "l"), ("letternumber", "nl"),
   ("lineseparator", "zl"), ("lowercaseletter", "ll"), ("mark", "m"), ("mathsymbol", "sm"),
   ("modifierletter", "lm"), ("modifiersymbol", "sk"), ("nonspacingmark", "mn"),
   ("number", "n"), ("openpunctuation", "ps"), ("other", "c"), ("otherletter", "lo"),
   ("othernumber", "no"), ("otherpunctuation", "po"), ("othersymbol", "so"),
   ("paragraphseparator", "zp"), ("privateuse", "co"), ("punct", "p"), ("punctuation", "p"),
   ("separator", "z"), ("spaceseparator", "zs"), ("spacingmark", "mc"), ("symbol", "s"),
   ("titlecaseletter", "lt"), ("unassigned", "cn"), ("uppercaseletter", "lu")]

/-- The categories that a code stands for, of one category or of a group. -/
def categoriesOf (code : String) : List String :=
  if code = "lc" then ["lu", "ll", "lt"]
  else categoryCodes.filter fun c => c = code || c.toList.take 1 = code.toList

/-- The characters of the category or group of a name, if there is one. -/
def category? (name : String) : Option CharSet :=
  match categoriesOf ((categoryNames.lookup name).getD name) with
  | [] => none
  | codes => some (.ofCategories codes)

end Text

end Bookkeeping
