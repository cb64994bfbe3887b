import Bookkeeping.Text.Runs

/-!
# Scripts

Every character belongs to a script, which has a code of four letters: `latn`, `grek`, and so on;
`zyyy` is for what many scripts have in common and `zinh` for marks that take the script of what
they stand on.  Of some characters it is known which scripts they are used in.
-/

namespace Bookkeeping

namespace Text

/-- The scripts of all code points; `zzzz` if they have none. -/
def scriptLines : List String :=
  ["65zyyy 26latn 6zyyy 26latn 47zyyy 1latn 15zyyy 1latn 5zyyy 23latn 1zyyy 31latn 1zyyy 449latn",
   "39zyyy 5latn 5zyyy 2bopo 20zyyy 112zinh 4grek 1zyyy 3grek 2zzzz 4grek 1zyyy 1grek 4zzzz",
   "1grek 1zyyy 1grek 1zyyy 3grek 1zzzz 1grek 1zzzz 20grek 1zzzz 63grek 14copt 16grek 133cyrl",
   "2zinh 169cyrl 1zzzz 38armn 2zzzz 50armn 2zzzz 3armn 1zzzz 55hebr 8zzzz 27hebr 4zzzz 6hebr",
   "11zzzz 5arab 1zyyy 6arab 1zyyy 14arab 1zyyy 3arab 1zyyy 32arab 1zyyy 10arab 11zinh 26arab",
   "1zinh 108arab 1zyyy 34arab 14syrc 1zzzz 60syrc 2zzzz 3syrc 48arab 50thaa 14zzzz 59nkoo 2zzzz",
   "3nkoo 46samr 2zzzz 15samr 1zzzz 28mand 2zzzz 1mand 1zzzz 11syrc 5zzzz 31arab 1zzzz 2arab",
   "5zzzz 75arab 1zyyy 29arab 81deva 4zinh 15deva 2zyyy 26deva 4beng 1zzzz 8beng 2zzzz 2beng",
   "2zzzz 22beng 1zzzz 7beng 1zzzz 1beng 3zzzz 4beng 2zzzz 9beng 2zzzz 2beng 2zzzz 4beng 8zzzz",
   "1beng 4zzzz 2beng 1zzzz 5beng 2zzzz 25beng 2zzzz 3guru 1zzzz 6guru 4zzzz 2guru 2zzzz 22guru",
   "1zzzz 7guru 1zzzz 2guru 1zzzz 2guru 1zzzz 2guru 2zzzz 1guru 1zzzz 5guru 4zzzz 2guru 2zzzz",
   "3guru 3zzzz 1guru 7zzzz 4guru 1zzzz 1guru 7zzzz 17guru 10zzzz 3gujr 1zzzz 9gujr 1zzzz 3gujr",
   "1zzzz 22gujr 1zzzz 7gujr 1zzzz 2gujr 1zzzz 5gujr 2zzzz 10gujr 1zzzz 3gujr 1zzzz 3gujr 2zzzz",
   "1gujr 15zzzz 4gujr 2zzzz 12gujr 7zzzz 7gujr 1zzzz 3orya 1zzzz 8orya 2zzzz 2orya 2zzzz 22orya",
   "1zzzz 7orya 1zzzz 2orya 1zzzz 5orya 2zzzz 9orya 2zzzz 2orya 2zzzz 3orya 7zzzz 3orya 4zzzz",
   "2orya 1zzzz 5orya 2zzzz 18orya 10zzzz 2taml 1zzzz 6taml 3zzzz 3taml 1zzzz 4taml 3zzzz 2taml",
   "1zzzz 1taml 1zzzz 2taml 3zzzz 2taml 3zzzz 3taml 3zzzz 12taml 4zzzz 5taml 3zzzz 3taml 1zzzz",
   "4taml 2zzzz 1taml 6zzzz 1taml 14zzzz 21taml 5zzzz 13telu 1zzzz 3telu 1zzzz 23telu 1zzzz",
   "16telu 2zzzz 9telu 1zzzz 3telu 1zzzz 4telu 7zzzz 2telu 1zzzz 3telu 2zzzz 1telu 2zzzz 4telu",
   "2zzzz 10telu 7zzzz 9telu 13knda 1zzzz 3knda 1zzzz 23knda 1zzzz 10knda 1zzzz 5knda 2zzzz",
   "9knda 1zzzz 3knda 1zzzz 4knda 7zzzz 2knda 6zzzz 2knda 1zzzz 4knda 2zzzz 10knda 1zzzz 3knda",
   "12zzzz 13mlym 1zzzz 3mlym 1zzzz 51mlym 1zzzz 3mlym 1zzzz 6mlym 4zzzz 16mlym 2zzzz 26mlym",
   "1zzzz 3sinh 1zzzz 18sinh 3zzzz 24sinh 1zzzz 9sinh 1zzzz 1sinh 2zzzz 7sinh 3zzzz 1sinh 4zzzz",
   "6sinh 1zzzz 1sinh 1zzzz 8sinh 6zzzz 10sinh 2zzzz 3sinh 12zzzz 58thai 4zzzz 1zyyy 28thai",
   "37zzzz 2laoo 1zzzz 1laoo 1zzzz 5laoo 1zzzz 24laoo 1zzzz 1laoo 1zzzz 23laoo 2zzzz 5laoo 1zzzz",
   "1laoo 1zzzz 7laoo 1zzzz 10laoo 2zzzz 4laoo 32zzzz 72tibt 1zzzz 36tibt 4zzzz 39tibt 1zzzz",
   "36tibt 1zzzz 15tibt 1zzzz 7tibt 4zyyy 2tibt 37zzzz 160mymr 38geor 1zzzz 1geor 5zzzz 1geor",
   "2zzzz 43geor 1zyyy 4geor 256hang 73ethi 1zzzz 4ethi 2zzzz 7ethi 1zzzz 1ethi 1zzzz 4ethi",
   "2zzzz 41ethi 1zzzz 4ethi 2zzzz 33ethi 1zzzz 4ethi 2zzzz 7ethi 1zzzz 1ethi 1zzzz 4ethi 2zzzz",
   "15ethi 1zzzz 57ethi 1zzzz 4ethi 2zzzz 67ethi 2zzzz 32ethi 3zzzz 26ethi 6zzzz 86cher 2zzzz",
   "6cher 2zzzz 640cans 29ogam 3zzzz 75runr 3zyyy 11runr 7zzzz 22tglg 9zzzz 1tglg 21hano 2zyyy",
   "9zzzz 20buhd 12zzzz 13tagb 1zzzz 3tagb 1zzzz 2tagb 12zzzz 94khmr 2zzzz 10khmr 6zzzz 10khmr",
   "6zzzz 2mong 2zyyy 1mong 1zyyy 20mong 6zzzz 89mong 7zzzz 43mong 5zzzz 70cans 10zzzz 31limb",
   "1zzzz 12limb 4zzzz 12limb 4zzzz 1limb 3zzzz 12limb 30tale 2zzzz 5tale 11zzzz 44talu 4zzzz",
   "26talu 6zzzz 11talu 3zzzz 2talu 32khmr 28bugi 2zzzz 2bugi 63lana 1zzzz 29lana 2zzzz 11lana",
   "6zzzz 10lana 6zzzz 14lana 2zzzz 31zinh 49zzzz 77bali 1zzzz 50bali 64sund 52batk 8zzzz 4batk",
   "56lepc 3zzzz 15lepc 3zzzz 3lepc 48olck 11cyrl 5zzzz 43geor 2zzzz 3geor 8sund 8zzzz 3zinh",
   "1zyyy 13zinh 1zyyy 7zinh 4zyyy 1zinh 6zyyy 1zinh 3zyyy 2zinh 1zyyy 5zzzz 38latn 5grek 1cyrl",
   "49latn 5grek 4latn 5grek 13latn 1cyrl 70latn 1grek 64zinh 256latn 22grek 2zzzz 6grek 2zzzz",
   "38grek 2zzzz 6grek 2zzzz 8grek 1zzzz 1grek 1zzzz 1grek 1zzzz 1grek 1zzzz 31grek 2zzzz 53grek",
   "1zzzz 15grek 1zzzz 14grek 2zzzz 6grek 1zzzz 19grek 2zzzz 3grek 1zzzz 9grek 1zzzz 12zyyy",
   "2zinh 87zyyy 1zzzz 11zyyy 1latn 2zzzz 11zyyy 1latn 15zyyy 1zzzz 13latn 3zzzz 33zyyy 15zzzz",
   "33zinh 15zzzz 38zyyy 1grek 3zyyy 2latn 6zyyy 1latn 27zyyy 1latn 17zyyy 41latn 3zyyy 4zzzz",
   "666zyyy 22zzzz 11zyyy 21zzzz 928zyyy 256brai 628zyyy 2zzzz 32zyyy 1zzzz 105zyyy 96glag",
   "32latn 116copt 5zzzz 7copt 38geor 1zzzz 1geor 5zzzz 1geor 2zzzz 56tfng 7zzzz 2tfng 14zzzz",
   "1tfng 23ethi 9zzzz 7ethi 1zzzz 7ethi 1zzzz 7ethi 1zzzz 7ethi 1zzzz 7ethi 1zzzz 7ethi 1zzzz",
   "7ethi 1zzzz 7ethi 1zzzz 32cyrl 94zyyy 34zzzz 26hani 1zzzz 89hani 12zzzz 214hani 26zzzz",
   "21zyyy 1hani 1zyyy 1hani 25zyyy 9hani 4zinh 2hang 8zyyy 4hani 4zyyy 1zzzz 86hira 2zzzz 2zinh",
   "2zyyy 3hira 1zyyy 90kana 2zyyy 3kana 5zzzz 43bopo 1zzzz 94hang 1zzzz 16zyyy 32bopo 38zyyy",
   "9zzzz 1zyyy 16kana 31hang 1zzzz 64zyyy 31hang 81zyyy 47kana 1zyyy 88kana 168zyyy 6592hani",
   "64zyyy 20992hani 1165yiii 3zzzz 55yiii 9zzzz 48lisu 300vaii 20zzzz 96cyrl 88bamu 8zzzz",
   "34zyyy 102latn 3zyyy 67latn 2zzzz 2latn 1zzzz 1latn 1zzzz 8latn 21zzzz 14latn 45sylo 3zzzz",
   "10zyyy 6zzzz 56phag 8zzzz 70saur 8zzzz 12saur 6zzzz 32deva 46kali 1zyyy 1kali 36rjng 11zzzz",
   "1rjng 29hang 3zzzz 78java 1zzzz 1zyyy 10java 4zzzz 2java 31mymr 1zzzz 55cham 9zzzz 14cham",
   "2zzzz 10cham 2zzzz 4cham 32mymr 67tavt 24zzzz 5tavt 23mtei 10zzzz 6ethi 2zzzz 6ethi 2zzzz",
   "6ethi 9zzzz 7ethi 1zzzz 7ethi 1zzzz 43latn 1zyyy 9latn 1grek 4latn 2zyyy 4zzzz 80cher 46mtei",
   "2zzzz 10mtei 6zzzz 11172hang 12zzzz 23hang 4zzzz 49hang 8452zzzz 366hani 2zzzz 106hani",
   "38zzzz 7latn 12zzzz 5armn 5zzzz 26hebr 1zzzz 5hebr 1zzzz 1hebr 1zzzz 2hebr 1zzzz 2hebr 1zzzz",
   "10hebr 115arab 16zzzz 363arab 2zyyy 80arab 2zzzz 54arab 7zzzz 1arab 32zzzz 16arab 16zinh",
   "10zyyy 6zzzz 14zinh 2cyrl 35zyyy 1zzzz 19zyyy 1zzzz 4zyyy 4zzzz 5arab 1zzzz 135arab 2zzzz",
   "1zyyy 1zzzz 32zyyy 26latn 6zyyy 26latn 11zyyy 10kana 1zyyy 45kana 2zyyy 31hang 3zzzz 6hang",
   "2zzzz 6hang 2zzzz 6hang 2zzzz 3hang 3zzzz 7zyyy 1zzzz 7zyyy 10zzzz 5zyyy 2zzzz 12linb 1zzzz",
   "26linb 1zzzz 19linb 1zzzz 2linb 1zzzz 15linb 2zzzz 14linb 34zzzz 123linb 5zzzz 3zyyy 4zzzz",
   "45zyyy 3zzzz 9zyyy 79grek 1zzzz 13zyyy 3zzzz 1grek 47zzzz 45zyyy 1zinh 130zzzz 29lyci 3zzzz",
   "49cari 15zzzz 1zinh 27zyyy 4zzzz 36ital 9zzzz 3ital 27goth 5zzzz 43perm 5zzzz 30ugar 1zzzz",
   "1ugar 36xpeo 4zzzz 14xpeo 42zzzz 80dsrt 48shaw 30osma 2zzzz 10osma 6zzzz 36osge 4zzzz 36osge",
   "4zzzz 40elba 8zzzz 52aghb 11zzzz 1aghb 11vith 1zzzz 15vith 1zzzz 7vith 1zzzz 2vith 1zzzz",
   "11vith 1zzzz 15vith 1zzzz 7vith 1zzzz 2vith 3zzzz 52todr 12zzzz 311lina 9zzzz 22lina 10zzzz",
   "8lina 24zzzz 6latn 1zzzz 42latn 1zzzz 9latn 69zzzz 6cprt 2zzzz 1cprt 1zzzz 44cprt 1zzzz",
   "2cprt 3zzzz 1cprt 2zzzz 1cprt 22armi 1zzzz 9armi 32palm 31nbat 8zzzz 9nbat 48zzzz 19hatr",
   "1zzzz 2hatr 5zzzz 5hatr 28phnx 3zzzz 1phnx 26lydi 5zzzz 1lydi 64zzzz 32mero 24merc 4zzzz",
   "20merc 2zzzz 46merc 4khar 1zzzz 2khar 5zzzz 8khar 1zzzz 3khar 1zzzz 29khar 2zzzz 3khar 4zzzz",
   "10khar 7zzzz 9khar 7zzzz 32sarb 32narb 32zzzz 39mani 4zzzz 12mani 9zzzz 54avst 3zzzz 7avst",
   "22prti 2zzzz 8prti 19phli 5zzzz 8phli 18phlp 7zzzz 4phlp 12zzzz 7phlp 80zzzz 73orkh 55zzzz",
   "51hung 13zzzz 51hung 7zzzz 6hung 40rohg 8zzzz 10rohg 6zzzz 38gara 3zzzz 29gara 8zzzz 2gara",
   "208zzzz 31arab 1zzzz 42yezi 1zzzz 3yezi 2zzzz 2yezi 16zzzz 3arab 55zzzz 4arab 40sogo 8zzzz",
   "42sogd 22zzzz 26ougr 38zzzz 28chrs 20zzzz 23elym 9zzzz 78brah 4zzzz 36brah 9zzzz 1brah",
   "67kthi 10zzzz 1kthi 2zzzz 25sora 7zzzz 10sora 6zzzz 53cakm 1zzzz 18cakm 8zzzz 39mahj 9zzzz",
   "96shrd 1zzzz 20sinh 11zzzz 18khoj 1zzzz 47khoj 62zzzz 7mult 1zzzz 1mult 1zzzz 4mult 1zzzz",
   "15mult 1zzzz 11mult 6zzzz 59sind 5zzzz 10sind 6zzzz 4gran 1zzzz 8gran 2zzzz 2gran 2zzzz",
   "22gran 1zzzz 7gran 1zzzz 2gran 1zzzz 5gran 1zzzz 1zinh 9gran 2zzzz 2gran 2zzzz 3gran 2zzzz",
   "1gran 6zzzz 1gran 5zzzz 7gran 2zzzz 7gran 3zzzz 5gran 11zzzz 10tutg 1zzzz 1tutg 2zzzz 1tutg",
   "1zzzz 38tutg 1zzzz 10tutg 1zzzz 1tutg 2zzzz 1tutg 1zzzz 4tutg 1zzzz 10tutg 1zzzz 2tutg 8zzzz",
   "2tutg 29zzzz 92newa 1zzzz 5newa 30zzzz 72tirh 8zzzz 10tirh 166zzzz 54sidd 2zzzz 38sidd",
   "34zzzz 69modi 11zzzz 10modi 6zzzz 13mong 19zzzz 58takr 6zzzz 10takr 6zzzz 20mymr 28zzzz",
   "27ahom 2zzzz 15ahom 4zzzz 23ahom 185zzzz 60dogr 100zzzz 83wara 12zzzz 1wara 7diak 2zzzz",
   "1diak 2zzzz 8diak 1zzzz 2diak 1zzzz 30diak 1zzzz 2diak 2zzzz 12diak 9zzzz 10diak 70zzzz",
   "8nand 2zzzz 46nand 2zzzz 11nand 27zzzz 72zanb 8zzzz 83soyo 13zzzz 16cans 57pauc 7zzzz 10deva",
   "182zzzz 34sunu 14zzzz 10sunu 6zzzz 9bhks 1zzzz 45bhks 1zzzz 14bhks 10zzzz 29bhks 3zzzz",
   "32marc 2zzzz 22marc 1zzzz 14marc 73zzzz 7gonm 1zzzz 2gonm 1zzzz 44gonm 3zzzz 1gonm 1zzzz",
   "2gonm 1zzzz 9gonm 8zzzz 10gonm 6zzzz 6gong 1zzzz 2gong 1zzzz 37gong 1zzzz 2gong 1zzzz 6gong",
   "7zzzz 10gong 310zzzz 25maka 7zzzz 17kawi 1zzzz 41kawi 3zzzz 29kawi 85zzzz 1lisu 15zzzz",
   "50taml 13zzzz 1taml 922xsux 102zzzz 111xsux 1zzzz 5xsux 11zzzz 196xsux 2636zzzz 99cpmn",
   "13zzzz 1110egyp 10zzzz 3995egyp 5zzzz 583hluw 6841zzzz 58gukh 1734zzzz 569bamu 7zzzz 31mroo",
   "1zzzz 10mroo 4zzzz 2mroo 79tnsa 1zzzz 10tnsa 6zzzz 30bass 2zzzz 6bass 10zzzz 70hmng 10zzzz",
   "10hmng 1zzzz 7hmng 1zzzz 21hmng 5zzzz 19hmng 432zzzz 58krai 198zzzz 91medf 101zzzz 75plrd",
   "4zzzz 57plrd 7zzzz 17plrd 64zzzz 1tang 1nshu 2hani 1kits 11zzzz 2hani 14zzzz 6136tang 8zzzz",
   "768tang 470kits 41zzzz 1kits 9tang 8935zzzz 4kana 1zzzz 7kana 1zzzz 2kana 1zzzz 1kana",
   "287hira 3kana 15zzzz 1hira 29zzzz 3hira 2zzzz 1kana 14zzzz 4kana 8zzzz 396nshu 2308zzzz",
   "107dupl 5zzzz 13dupl 3zzzz 9dupl 7zzzz 10dupl 2zzzz 4dupl 4zyyy 3932zzzz 250zyyy 6zzzz",
   "436zyyy 76zzzz 46zinh 2zzzz 23zinh 9zzzz 116zyyy 60zzzz 246zyyy 10zzzz 39zyyy 2zzzz 62zyyy",
   "3zinh 17zyyy 8zinh 2zyyy 7zinh 30zyyy 4zinh 61zyyy 21zzzz 70grek 122zzzz 20zyyy 12zzzz",
   "20zyyy 12zzzz 87zyyy 9zzzz 25zyyy 135zzzz 85zyyy 1zzzz 71zyyy 1zzzz 2zyyy 2zzzz 1zyyy 2zzzz",
   "2zyyy 2zzzz 4zyyy 1zzzz 12zyyy 1zzzz 1zyyy 1zzzz 7zyyy 1zzzz 65zyyy 1zzzz 4zyyy 2zzzz 8zyyy",
   "1zzzz 7zyyy 1zzzz 28zyyy 1zzzz 4zyyy 1zzzz 5zyyy 1zzzz 1zyyy 3zzzz 7zyyy 1zzzz 340zyyy 2zzzz",
   "292zyyy 2zzzz 50zyyy 652sgnw 15zzzz 5sgnw 1zzzz 15sgnw 1104zzzz 31latn 6zzzz 6latn 213zzzz",
   "7glag 1zzzz 17glag 2zzzz 7glag 1zzzz 2glag 1zzzz 5glag 5zzzz 62cyrl 33zzzz 1cyrl 112zzzz",
   "45hmnp 3zzzz 14hmnp 2zzzz 10hmnp 4zzzz 2hmnp 320zzzz 31toto 17zzzz 58wcho 5zzzz 1wcho",
   "464zzzz 42nagm 214zzzz 43onao 4zzzz 1onao 480zzzz 7ethi 1zzzz 4ethi 1zzzz 2ethi 1zzzz 15ethi",
   "1zzzz 197mend 2zzzz 16mend 41zzzz 76adlm 4zzzz 10adlm 4zzzz 2adlm 785zzzz 68zyyy 76zzzz",
   "61zyyy 194zzzz 4arab 1zzzz 27arab 1zzzz 2arab 1zzzz 1arab 2zzzz 1arab 1zzzz 10arab 1zzzz",
   "4arab 1zzzz 1arab 1zzzz 1arab 6zzzz 1arab 4zzzz 1arab 1zzzz 1arab 1zzzz 1arab 1zzzz 3arab",
   "1zzzz 2arab 1zzzz 1arab 2zzzz 1arab 1zzzz 1arab 1zzzz 1arab 1zzzz 1arab 1zzzz 1arab 1zzzz",
   "2arab 1zzzz 1arab 2zzzz 4arab 1zzzz 7arab 1zzzz 4arab 1zzzz 4arab 1zzzz 1arab 1zzzz 10arab",
   "1zzzz 17arab 5zzzz 3arab 1zzzz 5arab 1zzzz 17arab 52zzzz 2arab 270zzzz 44zyyy 4zzzz 100zyyy",
   "12zzzz 15zyyy 2zzzz 15zyyy 1zzzz 15zyyy 1zzzz 37zyyy 10zzzz 174zyyy 56zzzz 26zyyy 1hira",
   "2zyyy 13zzzz 44zyyy 4zzzz 9zyyy 7zzzz 2zyyy 14zzzz 6zyyy 154zzzz 984zyyy 4zzzz 17zyyy 3zzzz",
   "13zyyy 3zzzz 119zyyy 4zzzz 95zyyy 6zzzz 12zyyy 4zzzz 1zyyy 15zzzz 12zyyy 4zzzz 56zyyy 8zzzz",
   "10zyyy 6zzzz 40zyyy 8zzzz 30zyyy 2zzzz 12zyyy 4zzzz 2zyyy 62zzzz 340zyyy 12zzzz 14zyyy 2zzzz",
   "13zyyy 3zzzz 10zyyy 5zzzz 56zyyy 7zzzz 15zyyy 2zzzz 11zyyy 6zzzz 9zyyy 7zzzz 147zyyy 1zzzz",
   "102zyyy 1030zzzz 42720hani 32zzzz 4154hani 6zzzz 222hani 2zzzz 5762hani 14zzzz 7473hani",
   "15zzzz 622hani 2466zzzz 542hani 1506zzzz 4939hani 5zzzz 4192hani 711761zzzz 1zyyy 30zzzz",
   "96zyyy 128zzzz 240zinh 196112zzzz"]

/-- The scripts that code points are used in; `x` if there is no list. -/
def scriptUseLines : List String :=
  ["183x 1avstcaricoptduplelbageorglaggonggothgrekhanilatnlydimahjpermshaw 516x",
   "1bengcyrldevalatnlisuthaitoto 10x 1bopolatn 1x 3bopolatn 1x 1latnlisu 9x 1latnthai 1x",
   "1bopolatn 38x 1chercoptcyrlgreklatnpermsunutale 1chercyrlgreklatnosgesunutaletodr",
   "1chercyrllatntfng 1glaglatnsunusyrcthai 1aghbchercoptcyrlgothgreklatnosgesyrctfngtodr",
   "1coptelbaglaggothkanalatn 1cyrlgreklatnpermtfng 1coptduplhebrlatnpermsyrctaletfngtodr",
   "1armncyrlduplgothgrekhebrlatnpermsyrctaletfng 1latntfng 1dupllatnsyrc 1chercyrllatnosge",
   "1cherlatntale 1latnsunu 1ethilatn 1x 1latnsunu 1cyrllatntodr 1x 1greklatnpermtodr 15x",
   "1cherduplkanalatnsyrctfng 1cherdupllatnsyrc 1latnsyrc 7x 1latnsunusyrc 1latnsyrc 1x",
   "1cherlatnsyrc 1aghbchergothlatnsunusyrcthai 16x 1grek 2x 1grek 18x 1latnosge 5x",
   "1aghblatntodr 4x 13latn 4x 2coptgrek 269x 1cyrlperm 1cyrlglag 2cyrllatn 1cyrlglag 257x",
   "1armngeorglag 130x 1arabgarankoorohgsyrcthaayezi 14x 1arabgarankoorohgsyrcthaayezi",
   "1arabsyrcthaa 2x 1adlmarabgarankoorohgsyrcthaayezi 32x 1adlmarabmandmaniougrphlprohgsogdsyrc",
   "10x 11arabsyrc 10x 10arabthaayezi 6x 1arabsyrc 99x 1arabrohg 636x",
   "1bengdevagrangujrgurukndalatnmlymnandnewaoryashrdtamltelutirh",
   "1bengdevagrangujrgurukndalatnmlymnewaoryatamltelutirh 17x",
   "1bengdevadogrgonggonmgrangujrgurukndamahjmlymnandonaooryasindsinhsylotakrtamltelutirh",
   "1bengdevadogrgonggonmgrangujrgukhgurukndalimbmahjmlymnandonaooryasindsinhsylotakrtamltelutirh",
   "10devadogrkthimahj 118x 10bengcakmsylo 118x 10gurumult 118x 10gujrkhoj 246x 14grantaml 242x",
   "10kndanandtutg 848x 10cakmmymrtale 177x 1georglaglatn 1519x 3runr 71x 2buhdhanotagbtglg 203x",
   "2mongphag 1x 1mongphag 1226x 1bengdevagranknda 1deva 1bengdevagranknda 1devagranknda 1deva",
   "1bengdevanewatelutirh 1bengdevatelu 1devanewashrd 1bengdevanewatelu 1devashrd",
   "1devakndamlymoryatamltelu 1deva 2devashrd 2deva 1devashrd 1bengdeva 1devanewatirh 6deva",
   "1devanandnewa 1bengdevashrd 1devanewa 1deva 1bengdevanewashrd 4deva",
   "1bengdevagrankndamlymnandoryasinhtelutirhtutg 1devagran 1devagrankndatutg 2bengdeva 1beng",
   "2devagran 1nand 197x 2grek 54x 1cyrllatnsyrc 1x 1syrc 564x 1latnmongphag 31x 1adlmarab 10x",
   "1carigeorglaghunglyciorkh 2x 1carigrekhungmero 146x 1devagranlatn 3366x 1coptlatn 24x",
   "1avstorkh 1avstcarigeorhungkthilydisamr 10x 1dupl 4x 1adlmarabhung 1x 1cyrlglag 428x",
   "16hanitang 1x 1bopohanghanihirakanamongyiii 1bopohanghanihirakanamongphagyiii",
   "1bopohanghanihirakana 2x 1hani 1x 2bopohanghanihirakanamongtibtyiii",
   "2bopohanghanihirakanalisumongtibtyiii 6bopohanghanihirakanayiii 1x 1bopohanghanihirakana",
   "8bopohanghanihirakanayiii 4bopohanghanihirakana 10x 4bopohani 2x 1bopohanghanihirakana",
   "5hirakana 1x 1bopohanghanihirakana 4x 2hanihirakana 2hani 89x 4hirakana 3x 1hirakana 90x",
   "1bopohanghanihirakanayiii 1hirakana 147x 16hani 32x 38hani 9x 1hanitang 48x 40hani 56x",
   "49hani 15x 12hani 51x 1hani 88x 25hani 10x 5hani 96x 31hani 29296x 1cyrlglag 144x 8hanilatn",
   "296x 3devadogrgujrgurukhojkndakthimahjmlymmodinandshrdsindtakrtirhtutg",
   "3devadogrgujrgurukhojkndakthimahjmodinandshrdsindtakrtirhtutg",
   "2devadogrgujrgurukhojkthimahjmodisindtakrtirh",
   "1devadogrgujrgurukhojkthimahjmodishrdsindtakrtirh",
   "1devadogrgujrgurukhojkthimahjmodisindtakrtirh 183x 1bengdevatutg 1x 1devataml 58x",
   "1kalilatnmymr 160x 1bugijava 21358x 2arabnkoo 178x 1arabthaa 10x 1arabthaa 71x",
   "2bopohanghanihirakana 282x 5bopohanghanihirakanayiii 10x 1hirakana 45x 2hirakana 352x",
   "2cpmncprtlinb 1cprtlinb 4x 45cprtlinalinb 3x 9cprtlinb 416x 28arabcopt 2038x 1maniougr 2062x",
   "1grantaml 1x 1grantaml 55x 2grantaml 3219x 2grantaml 1x 1grantaml 40140x 4dupl 5820x 18hani",
   "7902x 2hani 986542x"]

/-- The other names of scripts, with their codes. -/
def scriptNames : List (String × String) :=
  [("adlam", "adlm"), ("anatolianhieroglyphs", "hluw"), ("arabic", "arab"),
   ("armenian", "armn"), ("avestan", "avst"), ("balinese", "bali"), ("bamum", "bamu"),
   ("bassavah", "bass"), ("batak", "batk"), ("bengali", "beng"), ("bhaiksuki", "bhks"),
   ("bopomofo", "bopo"), ("brahmi", "brah"), ("braille", "brai"), ("buginese", "bugi"),
   ("buhid", "buhd"), ("canadianaboriginal", "cans"), ("carian", "cari"),
   ("caucasianalbanian", "aghb"), ("chakma", "cakm"), ("cherokee", "cher"),
   ("chorasmian", "chrs"), ("common", "zyyy"), ("coptic", "copt"), ("cuneiform", "xsux"),
   ("cypriot", "cprt"), ("cyprominoan", "cpmn"), ("cyrillic", "cyrl"), ("deseret", "dsrt"),
   ("devanagari", "deva"), ("divesakuru", "diak"), ("dogra", "dogr"), ("duployan", "dupl"),
   ("egyptianhieroglyphs", "egyp"), ("elbasan", "elba"), ("elymaic", "elym"),
   ("ethiopic", "ethi"), ("garay", "gara"), ("georgian", "geor"), ("glagolitic", "glag"),
   ("gothic", "goth"), ("grantha", "gran"), ("greek", "grek"), ("gujarati", "gujr"),
   ("gunjalagondi", "gong"), ("gurmukhi", "guru"), ("gurungkhema", "gukh"), ("han", "hani"),
   ("hangul", "hang"), ("hanifirohingya", "rohg"), ("hanunoo", "hano"), ("hatran", "hatr"),
   ("hebrew", "hebr"), ("hiragana", "hira"), ("imperialaramaic", "armi"),
   ("inherited", "zinh"), ("inscriptionalpahlavi", "phli"), ("inscriptionalparthian", "prti"),
   ("javanese", "java"), ("kaithi", "kthi"), ("kannada", "knda"), ("katakana", "kana"),
   ("kayahli", "kali"), ("kharoshthi", "khar"), ("khitansmallscript", "kits"),
   ("khmer", "khmr"), ("khojki", "khoj"), ("khudawadi", "sind"), ("kiratrai", "krai"),
   ("lao", "laoo"), ("latin", "latn"), ("lepcha", "lepc"), ("limbu", "limb"),
   ("lineara", "lina"), ("linearb", "linb"), ("lycian", "lyci"), ("lydian", "lydi"),
   ("mahajani", "mahj"), ("makasar", "maka"), ("malayalam", "mlym"), ("mandaic", "mand"),
   ("manichaean", "mani"), ("marchen", "marc"), ("masaramgondi", "gonm"),
   ("medefaidrin", "medf"), ("meeteimayek", "mtei"), ("mendekikakui", "mend"),
   ("meroiticcursive", "merc"), ("meroitichieroglyphs", "mero"), ("miao", "plrd"),
   ("mongolian", "mong"), ("mro", "mroo"), ("multani", "mult"), ("myanmar", "mymr"),
   ("nabataean", "nbat"), ("nagmundari", "nagm"), ("nandinagari", "nand"),
   ("newtailue", "talu"), ("nko", "nkoo"), ("nushu", "nshu"), ("nyiakengpuachuehmong", "hmnp"),
   ("ogham", "ogam"), ("olchiki", "olck"), ("oldhungarian", "hung"), ("olditalic", "ital"),
   ("oldnortharabian", "narb"), ("oldpermic", "perm"), ("oldpersian", "xpeo"),
   ("oldsogdian", "sogo"), ("oldsoutharabian", "sarb"), ("oldturkic", "orkh"),
   ("olduyghur", "ougr"), ("olonal", "onao"), ("oriya", "orya"), ("osage", "osge"),
   ("osmanya", "osma"), ("pahawhhmong", "hmng"), ("palmyrene", "palm"), ("paucinhau", "pauc"),
   ("phagspa", "phag"), ("phoenician", "phnx"), ("psalterpahlavi", "phlp"), ("qaac", "copt"),
   ("qaai", "zinh"), ("rejang", "rjng"), ("runic", "runr"), ("samaritan", "samr"),
   ("saurashtra", "saur"), ("sharada", "shrd"), ("shavian", "shaw"), ("siddham", "sidd"),
   ("signwriting", "sgnw"), ("sinhala", "sinh"), ("sogdian", "sogd"), ("sorasompeng", "sora"),
   ("soyombo", "soyo"), ("sundanese", "sund"), ("sunuwar", "sunu"), ("sylotinagri", "sylo"),
   ("syriac", "syrc"), ("tagalog", "tglg"), ("tagbanwa", "tagb"), ("taile", "tale"),
   ("taitham", "lana"), ("taiviet", "tavt"), ("takri", "takr"), ("tamil", "taml"),
   ("tangsa", "tnsa"), ("tangut", "tang"), ("telugu", "telu"), ("thaana", "thaa"),
   ("tibetan", "tibt"), ("tifinagh", "tfng"), ("tirhuta", "tirh"), ("todhri", "todr"),
   ("tulutigalari", "tutg"), ("ugaritic", "ugar"), ("vai", "vaii"), ("vithkuqi", "vith"),
   ("wancho", "wcho"), ("warangciti", "wara"), ("yezidi", "yezi"), ("yi", "yiii"),
   ("zanabazarsquare", "zanb")]

/-- The codes of the scripts. -/
def scriptCodes : List String :=
  entries
    ["adlm aghb ahom arab armi armn avst bali bamu bass batk beng bhks bopo brah brai bugi buhd",
     "cakm cans cari cham cher chrs copt cpmn cprt cyrl deva diak dogr dsrt dupl egyp elba elym",
     "ethi gara geor glag gong gonm goth gran grek gujr gukh guru hang hani hano hatr hebr hira",
     "hluw hmng hmnp hung ital java kali kana kawi khar khmr khoj kits knda krai kthi lana laoo",
     "latn lepc limb lina linb lisu lyci lydi mahj maka mand mani marc medf mend merc mero mlym",
     "modi mong mroo mtei mult mymr nagm nand narb nbat newa nkoo nshu ogam olck onao orkh orya",
     "osge osma ougr palm pauc perm phag phli phlp phnx plrd prti rjng rohg runr samr sarb saur",
     "sgnw shaw shrd sidd sind sinh sogd sogo sora soyo sund sunu sylo syrc tagb takr tale talu",
     "taml tang tavt telu tfng tglg thaa thai tibt tirh tnsa todr toto tutg ugar vaii vith wara",
     "wcho xpeo xsux yezi yiii zanb zinh zyyy"]

/-- The scripts of all code points, by runs. -/
def scriptRuns : List Run := Run.ofLines scriptLines

/-- The scripts that code points are used in, by runs. -/
def scriptUseRuns : List Run := Run.ofLines scriptUseLines

/-- The codes of four letters that a value is made of. -/
def codesOf : List Char → List String
  | a :: b :: c :: d :: cs => String.ofList [a, b, c, d] :: codesOf cs
  | _ => []

/-- The code of the script of a name. -/
def scriptCode? (name : String) : Option String :=
  let code := (scriptNames.lookup name).getD name
  if scriptCodes.contains code then some code else none

/-- The characters of the script of a name, if there is one. -/
def script? (name : String) : Option CharSet :=
  (scriptCode? name).map fun code => .ofRuns (· == code) scriptRuns

/-- The characters that are used in the script of a name: those with a list that has it, and those
of the script without a list. -/
def scriptUse? (name : String) : Option CharSet :=
  (scriptCode? name).map fun code =>
    let listed : CharSet := .ofRuns (fun v => (codesOf v.toList).contains code) scriptUseRuns
    let unlisted : CharSet := .ofRuns (· == "x") scriptUseRuns
    listed.union ((CharSet.ofRuns (· == code) scriptRuns).inter unlisted)

end Text

end Bookkeeping
