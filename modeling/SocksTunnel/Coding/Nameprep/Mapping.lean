import SocksTunnel.Coding.Defect

/-
  SocksTunnel.Coding.Nameprep.Mapping — the characters that a label is not kept with, each
  with the characters that it becomes: small letters for large ones, plain characters for
  their variants, letters and marks for letters with marks. A text of this table has the
  entries for so many characters in a row, a character first and then what it becomes.
-/

namespace SocksTunnel.Nameprep.Mapping

/-- Latin letters that become one character. -/
def latinOne : String :=
  "AaBbCcDdEeFfGgHhIiJjKkLlMmNnOoPpQqRrSsTtUuVvWwXxYyZz\u00a0 ªa²2³3µμ¹1ºoÆæÐðØøÞþĐđĦħŁłŊŋŒœŦŧſsƁɓƂƃƄƅ" ++
  "ƆɔƇƈƉɖƊɗƋƌƎǝƏəƐɛƑƒƓɠƔɣƖɩƗɨƘƙƜɯƝɲƟɵƢƣƤƥƦʀƧƨƩʃƬƭƮʈƱʊƲʋƳƴƵƶƷʒƸƹƼƽǤǥǶƕǷƿȜȝȠƞȢȣȤȥȺⱥȻȼȽƚȾⱦɁɂɃƀɄʉɅʌɆɇɈɉɊɋɌɍ" ++
  "Ɏɏʰhʱɦʲjʳrʴɹʵɻʶʁʷwʸyˠɣˡlˢsˣxˤʕ\u0340\u0300\u0341\u0301\u0343\u0313\u0345ι"

/-- Latin letters that become two characters. -/
def latinTwo : String :=
  "¨ \u0308¯ \u0304´ \u0301¸ \u0327Àa\u0300Áa\u0301Âa\u0302Ãa\u0303Äa\u0308Åa\u030aÇc\u0327Èe\u0300" ++
  "Ée\u0301Êe\u0302Ëe\u0308Ìi\u0300Íi\u0301Îi\u0302Ïi\u0308Ñn\u0303Òo\u0300Óo\u0301Ôo\u0302Õo\u0303" ++
  "Öo\u0308Ùu\u0300Úu\u0301Ûu\u0302Üu\u0308Ýy\u0301ßssàa\u0300áa\u0301âa\u0302ãa\u0303äa\u0308åa\u030a" ++
  "çc\u0327èe\u0300ée\u0301êe\u0302ëe\u0308ìi\u0300íi\u0301îi\u0302ïi\u0308ñn\u0303òo\u0300óo\u0301" ++
  "ôo\u0302õo\u0303öo\u0308ùu\u0300úu\u0301ûu\u0302üu\u0308ýy\u0301ÿy\u0308Āa\u0304āa\u0304Ăa\u0306" ++
  "ăa\u0306Ąa\u0328ąa\u0328Ćc\u0301ćc\u0301Ĉc\u0302ĉc\u0302Ċc\u0307ċc\u0307Čc\u030cčc\u030cĎd\u030c" ++
  "ďd\u030cĒe\u0304ēe\u0304Ĕe\u0306ĕe\u0306Ėe\u0307ėe\u0307Ęe\u0328ęe\u0328Ěe\u030cěe\u030cĜg\u0302" ++
  "ĝg\u0302Ğg\u0306ğg\u0306Ġg\u0307ġg\u0307Ģg\u0327ģg\u0327Ĥh\u0302ĥh\u0302Ĩi\u0303ĩi\u0303Īi\u0304" ++
  "īi\u0304Ĭi\u0306ĭi\u0306Įi\u0328įi\u0328İi\u0307ĲijĳijĴj\u0302ĵj\u0302Ķk\u0327ķk\u0327Ĺl\u0301" ++
  "ĺl\u0301Ļl\u0327ļl\u0327Ľl\u030cľl\u030cĿl·ŀl·Ńn\u0301ńn\u0301Ņn\u0327ņn\u0327Ňn\u030cňn\u030cŉʼn" ++
  "Ōo\u0304ōo\u0304Ŏo\u0306ŏo\u0306Őo\u030bőo\u030bŔr\u0301ŕr\u0301Ŗr\u0327ŗr\u0327Řr\u030cřr\u030c" ++
  "Śs\u0301śs\u0301Ŝs\u0302ŝs\u0302Şs\u0327şs\u0327Šs\u030cšs\u030cŢt\u0327ţt\u0327Ťt\u030cťt\u030c" ++
  "Ũu\u0303ũu\u0303Ūu\u0304ūu\u0304Ŭu\u0306ŭu\u0306Ůu\u030aůu\u030aŰu\u030bűu\u030bŲu\u0328ųu\u0328" ++
  "Ŵw\u0302ŵw\u0302Ŷy\u0302ŷy\u0302Ÿy\u0308Źz\u0301źz\u0301Żz\u0307żz\u0307Žz\u030cžz\u030cƠo\u031b" ++
  "ơo\u031bƯu\u031bưu\u031bǇljǈljǉljǊnjǋnjǌnjǍa\u030cǎa\u030cǏi\u030cǐi\u030cǑo\u030cǒo\u030cǓu\u030c" ++
  "ǔu\u030cǢæ\u0304ǣæ\u0304Ǧg\u030cǧg\u030cǨk\u030cǩk\u030cǪo\u0328ǫo\u0328Ǯʒ\u030cǯʒ\u030cǰj\u030cǱdz" ++
  "ǲdzǳdzǴg\u0301ǵg\u0301Ǹn\u0300ǹn\u0300Ǽæ\u0301ǽæ\u0301Ǿø\u0301ǿø\u0301Ȁa\u030fȁa\u030fȂa\u0311" ++
  "ȃa\u0311Ȅe\u030fȅe\u030fȆe\u0311ȇe\u0311Ȉi\u030fȉi\u030fȊi\u0311ȋi\u0311Ȍo\u030fȍo\u030fȎo\u0311" ++
  "ȏo\u0311Ȑr\u030fȑr\u030fȒr\u0311ȓr\u0311Ȕu\u030fȕu\u030fȖu\u0311ȗu\u0311Șs\u0326șs\u0326Țt\u0326" ++
  "țt\u0326Ȟh\u030cȟh\u030cȦa\u0307ȧa\u0307Ȩe\u0327ȩe\u0327Ȯo\u0307ȯo\u0307Ȳy\u0304ȳy\u0304˘ \u0306" ++
  "˙ \u0307˚ \u030a˛ \u0328˜ \u0303˝ \u030b\u0344\u0308\u0301"

/-- Latin letters that become three characters. -/
def latinThree : String :=
  "¼1⁄4½1⁄2¾3⁄4Ǆdz\u030cǅdz\u030cǆdz\u030cǕu\u0308\u0304ǖu\u0308\u0304Ǘu\u0308\u0301ǘu\u0308\u0301" ++
  "Ǚu\u0308\u030cǚu\u0308\u030cǛu\u0308\u0300ǜu\u0308\u0300Ǟa\u0308\u0304ǟa\u0308\u0304Ǡa\u0307\u0304" ++
  "ǡa\u0307\u0304Ǭo\u0328\u0304ǭo\u0328\u0304Ǻa\u030a\u0301ǻa\u030a\u0301Ȫo\u0308\u0304ȫo\u0308\u0304" ++
  "Ȭo\u0303\u0304ȭo\u0303\u0304Ȱo\u0307\u0304ȱo\u0307\u0304"

/-- Greek and Cyrillic letters and the scripts after them that become one character. -/
def greekOne : String :=
  "ͰͱͲͳʹʹͶͷ;;Ϳϳ··ΑαΒβΓγΔδΕεΖζΗηΘθΙιΚκΛλΜμΝνΞξΟοΠπΡρΣσΤτΥυΦφΧχΨψΩωςσϏϗϐβϑθϒυϕφϖπϘϙϚϛϜϝϞϟϠϡϢϣϤϥϦϧϨϩϪϫϬϭϮϯ" ++
  "ϰκϱρϲσϴθϵεϷϸϹσϺϻϽͻϾͼϿͽЂђЄєЅѕІіЈјЉљЊњЋћЏџАаБбВвГгДдЕеЖжЗзИиКкЛлМмНнОоПпРрСсТтУуФфХхЦцЧчШшЩщЪъЫыЬьЭэЮю" ++
  "ЯяѠѡѢѣѤѥѦѧѨѩѪѫѬѭѮѯѰѱѲѳѴѵѸѹѺѻѼѽѾѿҀҁҊҋҌҍҎҏҐґҒғҔҕҖҗҘҙҚқҜҝҞҟҠҡҢңҤҥҦҧҨҩҪҫҬҭҮүҰұҲҳҴҵҶҷҸҹҺһҼҽҾҿӀӏӃӄӅӆӇӈӉӊӋӌ" ++
  "ӍӎӔӕӘәӠӡӨөӶӷӺӻӼӽӾӿԀԁԂԃԄԅԆԇԈԉԊԋԌԍԎԏԐԑԒԓԔԕԖԗԘԙԚԛԜԝԞԟԠԡԢԣԤԥԦԧԨԩԪԫԬԭԮԯԱաԲբԳգԴդԵեԶզԷէԸըԹթԺժԻիԼլԽխԾծԿկՀհՁձ" ++
  "ՂղՃճՄմՅյՆնՇշՈոՉչՊպՋջՌռՍսՎվՏտՐրՑցՒւՓփՔքՕօՖֆ༌་ႠⴀႡⴁႢⴂႣⴃႤⴄႥⴅႦⴆႧⴇႨⴈႩⴉႪⴊႫⴋႬⴌႭⴍႮⴎႯⴏႰⴐႱⴑႲⴒႳⴓႴⴔႵⴕႶⴖႷⴗႸⴘႹⴙႺⴚႻⴛ" ++
  "ႼⴜႽⴝႾⴞႿⴟჀⴠჁⴡჂⴢჃⴣჄⴤჅⴥჇⴧჍⴭᎠꭰᎡꭱᎢꭲᎣꭳᎤꭴᎥꭵᎦꭶᎧꭷᎨꭸᎩꭹᎪꭺᎫꭻᎬꭼᎭꭽᎮꭾᎯꭿᎰꮀᎱꮁᎲꮂᎳꮃᎴꮄᎵꮅᎶꮆᎷꮇᎸꮈᎹꮉᎺꮊᎻꮋᎼꮌᎽꮍᎾꮎᎿꮏᏀꮐᏁꮑᏂꮒᏃꮓᏄꮔᏅꮕ" ++
  "ᏆꮖᏇꮗᏈꮘᏉꮙᏊꮚᏋꮛᏌꮜᏍꮝᏎꮞᏏꮟᏐꮠᏑꮡᏒꮢᏓꮣᏔꮤᏕꮥᏖꮦᏗꮧᏘꮨᏙꮩᏚꮪᏛꮫᏜꮬᏝꮭᏞꮮᏟꮯᏠꮰᏡꮱᏢꮲᏣꮳᏤꮴᏥꮵᏦꮶᏧꮷᏨꮸᏩꮹᏪꮺᏫꮻᏬꮼᏭꮽᏮꮾᏯꮿᏰᏸᏱᏹᏲᏺᏳᏻᏴᏼᏵᏽᲐაᲑბ" ++
  "ᲒგᲓდᲔეᲕვᲖზᲗთᲘიᲙკᲚლᲛმᲜნᲝოᲞპᲟჟᲠრᲡსᲢტᲣუᲤფᲥქᲦღᲧყᲨშᲩჩᲪცᲫძᲬწᲭჭᲮხᲯჯᲰჰᲱჱᲲჲᲳჳᲴჴᲵჵᲶჶᲷჷᲸჸᲹჹᲺჺᲽჽᲾჾᲿჿ"

/-- Greek and Cyrillic letters and the scripts after them that become two characters. -/
def greekTwo : String :=
  "ͺ ι΄ \u0301Άα\u0301Έε\u0301Ήη\u0301Ίι\u0301Όο\u0301Ύυ\u0301Ώω\u0301Ϊι\u0308Ϋυ\u0308άα\u0301έε\u0301" ++
  "ήη\u0301ίι\u0301ϊι\u0308ϋυ\u0308όο\u0301ύυ\u0301ώω\u0301ϓυ\u0301ϔυ\u0308Ѐе\u0300Ёе\u0308Ѓг\u0301" ++
  "Їі\u0308Ќк\u0301Ѝи\u0300Ўу\u0306Йи\u0306йи\u0306ѐе\u0300ёе\u0308ѓг\u0301їі\u0308ќк\u0301ѝи\u0300" ++
  "ўу\u0306Ѷѵ\u030fѷѵ\u030fӁж\u0306ӂж\u0306Ӑа\u0306ӑа\u0306Ӓа\u0308ӓа\u0308Ӗе\u0306ӗе\u0306Ӛә\u0308" ++
  "ӛә\u0308Ӝж\u0308ӝж\u0308Ӟз\u0308ӟз\u0308Ӣи\u0304ӣи\u0304Ӥи\u0308ӥи\u0308Ӧо\u0308ӧо\u0308Ӫө\u0308" ++
  "ӫө\u0308Ӭэ\u0308ӭэ\u0308Ӯу\u0304ӯу\u0304Ӱу\u0308ӱу\u0308Ӳу\u030bӳу\u030bӴч\u0308ӵч\u0308Ӹы\u0308" ++
  "ӹы\u0308ևեւ\u0622\u0627\u0653\u0623\u0627\u0654\u0624\u0648\u0654\u0625\u0627\u0655" ++
  "\u0626\u064a\u0654\u0675\u0627\u0674\u0676\u0648\u0674\u0677\u06c7\u0674\u0678\u064a\u0674" ++
  "\u06c0\u06d5\u0654\u06c2\u06c1\u0654\u06d3\u06d2\u0654ऩन\u093cऱर\u093cऴळ\u093cक़क\u093cख़ख\u093c" ++
  "ग़ग\u093cज़ज\u093cड़ड\u093cढ़ढ\u093cफ़फ\u093cय़य\u093c\u09cb\u09c7\u09be\u09cc\u09c7\u09d7ড়ড\u09bcঢ়ঢ\u09bc" ++
  "য়য\u09bcਲ਼ਲ\u0a3cਸ਼ਸ\u0a3cਖ਼ਖ\u0a3cਗ਼ਗ\u0a3cਜ਼ਜ\u0a3cਫ਼ਫ\u0a3c\u0b48\u0b47\u0b56\u0b4b\u0b47\u0b3e" ++
  "\u0b4c\u0b47\u0b57ଡ଼ଡ\u0b3cଢ଼ଢ\u0b3cஔஒ\u0bd7\u0bca\u0bc6\u0bbe\u0bcb\u0bc7\u0bbe\u0bcc\u0bc6\u0bd7" ++
  "\u0c48\u0c46\u0c56\u0cc0\u0cbf\u0cd5\u0cc7\u0cc6\u0cd5\u0cc8\u0cc6\u0cd6\u0cca\u0cc6\u0cc2" ++
  "\u0d4a\u0d46\u0d3e\u0d4b\u0d47\u0d3e\u0d4c\u0d46\u0d57\u0dda\u0dd9\u0dca\u0ddc\u0dd9\u0dcf" ++
  "\u0dde\u0dd9\u0ddfำ\u0e4dาຳ\u0ecdາໜຫນໝຫມགྷག\u0fb7ཌྷཌ\u0fb7དྷད\u0fb7བྷབ\u0fb7ཛྷཛ\u0fb7ཀྵཀ\u0fb5" ++
  "\u0f73\u0f71\u0f72\u0f75\u0f71\u0f74\u0f76\u0fb2\u0f80\u0f78\u0fb3\u0f80\u0f81\u0f71\u0f80" ++
  "\u0f93\u0f92\u0fb7\u0f9d\u0f9c\u0fb7\u0fa2\u0fa1\u0fb7\u0fa7\u0fa6\u0fb7\u0fac\u0fab\u0fb7" ++
  "\u0fb9\u0f90\u0fb5ဦဥ\u102e"

/-- Greek and Cyrillic letters and the scripts after them that become three characters. -/
def greekThree : String :=
  "΅ \u0308\u0301ΐι\u0308\u0301ΰυ\u0308\u0301\u0ccb\u0cc6\u0cc2\u0cd5\u0ddd\u0dd9\u0dcf\u0dca" ++
  "\u0f77\u0fb2\u0f71\u0f80\u0f79\u0fb3\u0f71\u0f80"

/-- Further Latin and Greek letters that become one character. -/
def extendedOne : String :=
  "ỺỻỼỽỾỿιι``"

/-- Further Latin and Greek letters that become two characters. -/
def extendedTwo : String :=
  "Ḁa\u0325ḁa\u0325Ḃb\u0307ḃb\u0307Ḅb\u0323ḅb\u0323Ḇb\u0331ḇb\u0331Ḋd\u0307ḋd\u0307Ḍd\u0323ḍd\u0323" ++
  "Ḏd\u0331ḏd\u0331Ḑd\u0327ḑd\u0327Ḓd\u032dḓd\u032dḘe\u032dḙe\u032dḚe\u0330ḛe\u0330Ḟf\u0307ḟf\u0307" ++
  "Ḡg\u0304ḡg\u0304Ḣh\u0307ḣh\u0307Ḥh\u0323ḥh\u0323Ḧh\u0308ḧh\u0308Ḩh\u0327ḩh\u0327Ḫh\u032eḫh\u032e" ++
  "Ḭi\u0330ḭi\u0330Ḱk\u0301ḱk\u0301Ḳk\u0323ḳk\u0323Ḵk\u0331ḵk\u0331Ḷl\u0323ḷl\u0323Ḻl\u0331ḻl\u0331" ++
  "Ḽl\u032dḽl\u032dḾm\u0301ḿm\u0301Ṁm\u0307ṁm\u0307Ṃm\u0323ṃm\u0323Ṅn\u0307ṅn\u0307Ṇn\u0323ṇn\u0323" ++
  "Ṉn\u0331ṉn\u0331Ṋn\u032dṋn\u032dṔp\u0301ṕp\u0301Ṗp\u0307ṗp\u0307Ṙr\u0307ṙr\u0307Ṛr\u0323ṛr\u0323" ++
  "Ṟr\u0331ṟr\u0331Ṡs\u0307ṡs\u0307Ṣs\u0323ṣs\u0323Ṫt\u0307ṫt\u0307Ṭt\u0323ṭt\u0323Ṯt\u0331ṯt\u0331" ++
  "Ṱt\u032dṱt\u032dṲu\u0324ṳu\u0324Ṵu\u0330ṵu\u0330Ṷu\u032dṷu\u032dṼv\u0303ṽv\u0303Ṿv\u0323ṿv\u0323" ++
  "Ẁw\u0300ẁw\u0300Ẃw\u0301ẃw\u0301Ẅw\u0308ẅw\u0308Ẇw\u0307ẇw\u0307Ẉw\u0323ẉw\u0323Ẋx\u0307ẋx\u0307" ++
  "Ẍx\u0308ẍx\u0308Ẏy\u0307ẏy\u0307Ẑz\u0302ẑz\u0302Ẓz\u0323ẓz\u0323Ẕz\u0331ẕz\u0331ẖh\u0331ẗt\u0308" ++
  "ẘw\u030aẙy\u030aẚaʾẛs\u0307ẞssẠa\u0323ạa\u0323Ảa\u0309ảa\u0309Ẹe\u0323ẹe\u0323Ẻe\u0309ẻe\u0309" ++
  "Ẽe\u0303ẽe\u0303Ỉi\u0309ỉi\u0309Ịi\u0323ịi\u0323Ọo\u0323ọo\u0323Ỏo\u0309ỏo\u0309Ụu\u0323ụu\u0323" ++
  "Ủu\u0309ủu\u0309Ỳy\u0300ỳy\u0300Ỵy\u0323ỵy\u0323Ỷy\u0309ỷy\u0309Ỹy\u0303ỹy\u0303ἀα\u0313ἁα\u0314" ++
  "Ἀα\u0313Ἁα\u0314ἐε\u0313ἑε\u0314Ἐε\u0313Ἑε\u0314ἠη\u0313ἡη\u0314Ἠη\u0313Ἡη\u0314ἰι\u0313ἱι\u0314" ++
  "Ἰι\u0313Ἱι\u0314ὀο\u0313ὁο\u0314Ὀο\u0313Ὁο\u0314ὐυ\u0313ὑυ\u0314Ὑυ\u0314ὠω\u0313ὡω\u0314Ὠω\u0313" ++
  "Ὡω\u0314ὰα\u0300άα\u0301ὲε\u0300έε\u0301ὴη\u0300ήη\u0301ὶι\u0300ίι\u0301ὸο\u0300όο\u0301ὺυ\u0300" ++
  "ύυ\u0301ὼω\u0300ώω\u0301ᾰα\u0306ᾱα\u0304ᾳαιᾶα\u0342Ᾰα\u0306Ᾱα\u0304Ὰα\u0300Άα\u0301ᾼαι᾽ \u0313" ++
  "᾿ \u0313῀ \u0342ῃηιῆη\u0342Ὲε\u0300Έε\u0301Ὴη\u0300Ήη\u0301ῌηιῐι\u0306ῑι\u0304ῖι\u0342Ῐι\u0306" ++
  "Ῑι\u0304Ὶι\u0300Ίι\u0301ῠυ\u0306ῡυ\u0304ῤρ\u0313ῥρ\u0314ῦυ\u0342Ῠυ\u0306Ῡυ\u0304Ὺυ\u0300Ύυ\u0301" ++
  "Ῥρ\u0314ῳωιῶω\u0342Ὸο\u0300Όο\u0301Ὼω\u0300Ώω\u0301ῼωι´ \u0301῾ \u0314"

/-- Further Latin and Greek letters that become three characters. -/
def extendedThree : String :=
  "Ḉc\u0327\u0301ḉc\u0327\u0301Ḕe\u0304\u0300ḕe\u0304\u0300Ḗe\u0304\u0301ḗe\u0304\u0301Ḝe\u0327\u0306" ++
  "ḝe\u0327\u0306Ḯi\u0308\u0301ḯi\u0308\u0301Ḹl\u0323\u0304ḹl\u0323\u0304Ṍo\u0303\u0301ṍo\u0303\u0301" ++
  "Ṏo\u0303\u0308ṏo\u0303\u0308Ṑo\u0304\u0300ṑo\u0304\u0300Ṓo\u0304\u0301ṓo\u0304\u0301Ṝr\u0323\u0304" ++
  "ṝr\u0323\u0304Ṥs\u0301\u0307ṥs\u0301\u0307Ṧs\u030c\u0307ṧs\u030c\u0307Ṩs\u0323\u0307ṩs\u0323\u0307" ++
  "Ṹu\u0303\u0301ṹu\u0303\u0301Ṻu\u0304\u0308ṻu\u0304\u0308Ấa\u0302\u0301ấa\u0302\u0301Ầa\u0302\u0300" ++
  "ầa\u0302\u0300Ẩa\u0302\u0309ẩa\u0302\u0309Ẫa\u0302\u0303ẫa\u0302\u0303Ậa\u0323\u0302ậa\u0323\u0302" ++
  "Ắa\u0306\u0301ắa\u0306\u0301Ằa\u0306\u0300ằa\u0306\u0300Ẳa\u0306\u0309ẳa\u0306\u0309Ẵa\u0306\u0303" ++
  "ẵa\u0306\u0303Ặa\u0323\u0306ặa\u0323\u0306Ếe\u0302\u0301ếe\u0302\u0301Ềe\u0302\u0300ềe\u0302\u0300" ++
  "Ểe\u0302\u0309ểe\u0302\u0309Ễe\u0302\u0303ễe\u0302\u0303Ệe\u0323\u0302ệe\u0323\u0302Ốo\u0302\u0301" ++
  "ốo\u0302\u0301Ồo\u0302\u0300ồo\u0302\u0300Ổo\u0302\u0309ổo\u0302\u0309Ỗo\u0302\u0303ỗo\u0302\u0303" ++
  "Ộo\u0323\u0302ộo\u0323\u0302Ớo\u031b\u0301ớo\u031b\u0301Ờo\u031b\u0300ờo\u031b\u0300Ởo\u031b\u0309" ++
  "ởo\u031b\u0309Ỡo\u031b\u0303ỡo\u031b\u0303Ợo\u031b\u0323ợo\u031b\u0323Ứu\u031b\u0301ứu\u031b\u0301" ++
  "Ừu\u031b\u0300ừu\u031b\u0300Ửu\u031b\u0309ửu\u031b\u0309Ữu\u031b\u0303ữu\u031b\u0303Ựu\u031b\u0323" ++
  "ựu\u031b\u0323ἂα\u0313\u0300ἃα\u0314\u0300ἄα\u0313\u0301ἅα\u0314\u0301ἆα\u0313\u0342ἇα\u0314\u0342" ++
  "Ἂα\u0313\u0300Ἃα\u0314\u0300Ἄα\u0313\u0301Ἅα\u0314\u0301Ἆα\u0313\u0342Ἇα\u0314\u0342ἒε\u0313\u0300" ++
  "ἓε\u0314\u0300ἔε\u0313\u0301ἕε\u0314\u0301Ἒε\u0313\u0300Ἓε\u0314\u0300Ἔε\u0313\u0301Ἕε\u0314\u0301" ++
  "ἢη\u0313\u0300ἣη\u0314\u0300ἤη\u0313\u0301ἥη\u0314\u0301ἦη\u0313\u0342ἧη\u0314\u0342Ἢη\u0313\u0300" ++
  "Ἣη\u0314\u0300Ἤη\u0313\u0301Ἥη\u0314\u0301Ἦη\u0313\u0342Ἧη\u0314\u0342ἲι\u0313\u0300ἳι\u0314\u0300" ++
  "ἴι\u0313\u0301ἵι\u0314\u0301ἶι\u0313\u0342ἷι\u0314\u0342Ἲι\u0313\u0300Ἳι\u0314\u0300Ἴι\u0313\u0301" ++
  "Ἵι\u0314\u0301Ἶι\u0313\u0342Ἷι\u0314\u0342ὂο\u0313\u0300ὃο\u0314\u0300ὄο\u0313\u0301ὅο\u0314\u0301" ++
  "Ὂο\u0313\u0300Ὃο\u0314\u0300Ὄο\u0313\u0301Ὅο\u0314\u0301ὒυ\u0313\u0300ὓυ\u0314\u0300ὔυ\u0313\u0301" ++
  "ὕυ\u0314\u0301ὖυ\u0313\u0342ὗυ\u0314\u0342Ὓυ\u0314\u0300Ὕυ\u0314\u0301Ὗυ\u0314\u0342ὢω\u0313\u0300" ++
  "ὣω\u0314\u0300ὤω\u0313\u0301ὥω\u0314\u0301ὦω\u0313\u0342ὧω\u0314\u0342Ὢω\u0313\u0300Ὣω\u0314\u0300" ++
  "Ὤω\u0313\u0301Ὥω\u0314\u0301Ὦω\u0313\u0342Ὧω\u0314\u0342ᾀα\u0313ιᾁα\u0314ιᾈα\u0313ιᾉα\u0314ι" ++
  "ᾐη\u0313ιᾑη\u0314ιᾘη\u0313ιᾙη\u0314ιᾠω\u0313ιᾡω\u0314ιᾨω\u0313ιᾩω\u0314ιᾲα\u0300ιᾴα\u0301ιᾷα\u0342ι" ++
  "῁ \u0308\u0342ῂη\u0300ιῄη\u0301ιῇη\u0342ι῍ \u0313\u0300῎ \u0313\u0301῏ \u0313\u0342ῒι\u0308\u0300" ++
  "ΐι\u0308\u0301ῗι\u0308\u0342῝ \u0314\u0300῞ \u0314\u0301῟ \u0314\u0342ῢυ\u0308\u0300ΰυ\u0308\u0301" ++
  "ῧυ\u0308\u0342῭ \u0308\u0300΅ \u0308\u0301ῲω\u0300ιῴω\u0301ιῷω\u0342ι"

/-- Further Latin and Greek letters that become four characters. -/
def extendedFour : String :=
  "ᾂα\u0313\u0300ιᾃα\u0314\u0300ιᾄα\u0313\u0301ιᾅα\u0314\u0301ιᾆα\u0313\u0342ιᾇα\u0314\u0342ι" ++
  "ᾊα\u0313\u0300ιᾋα\u0314\u0300ιᾌα\u0313\u0301ιᾍα\u0314\u0301ιᾎα\u0313\u0342ιᾏα\u0314\u0342ι" ++
  "ᾒη\u0313\u0300ιᾓη\u0314\u0300ιᾔη\u0313\u0301ιᾕη\u0314\u0301ιᾖη\u0313\u0342ιᾗη\u0314\u0342ι" ++
  "ᾚη\u0313\u0300ιᾛη\u0314\u0300ιᾜη\u0313\u0301ιᾝη\u0314\u0301ιᾞη\u0313\u0342ιᾟη\u0314\u0342ι" ++
  "ᾢω\u0313\u0300ιᾣω\u0314\u0300ιᾤω\u0313\u0301ιᾥω\u0314\u0301ιᾦω\u0313\u0342ιᾧω\u0314\u0342ι" ++
  "ᾪω\u0313\u0300ιᾫω\u0314\u0300ιᾬω\u0313\u0301ιᾭω\u0314\u0301ιᾮω\u0313\u0342ιᾯω\u0314\u0342ι"

/-- Symbols that become one character. -/
def symbolOne : String :=
  "\u2000 \u2001 \u2002 \u2003 \u2004 \u2005 \u2006 \u2007 \u2008 \u2009 \u200a ‑‐․.\u202f \u205f ⁰0ⁱi" ++
  "⁴4⁵5⁶6⁷7⁸8⁹9⁺+⁻−⁼=⁽(⁾)ⁿn₀0₁1₂2₃3₄4₅5₆6₇7₈8₉9₊+₋−₌=₍(₎)ℂcℇɛℊgℋhℌhℍhℎhℏħℐiℑiℒlℓlℕnℙpℚqℛrℜrℝrℤzΩωℨzKkℬb" ++
  "ℭcℯeℰeℱfℲⅎℳmℴoℵ\u05d0ℶ\u05d1ℷ\u05d2ℸ\u05d3ℹiℽγℾγℿπ⅀∑ⅅdⅆdⅇeⅈiⅉjⅠiⅤvⅩxⅬlⅭcⅮdⅯmⅰiⅴvⅹxⅼlⅽcⅾdⅿmↃↄ〈〈〉〉" ++
  "①1②2③3④4⑤5⑥6⑦7⑧8⑨9ⒶaⒷbⒸcⒹdⒺeⒻfⒼgⒽhⒾiⒿjⓀkⓁlⓂmⓃnⓄoⓅpⓆqⓇrⓈsⓉtⓊuⓋvⓌwⓍxⓎyⓏzⓐaⓑbⓒcⓓdⓔeⓕfⓖgⓗhⓘiⓙjⓚkⓛlⓜmⓝnⓞo" ++
  "ⓟpⓠqⓡrⓢsⓣtⓤuⓥvⓦwⓧxⓨyⓩz⓪0ⰀⰰⰁⰱⰂⰲⰃⰳⰄⰴⰅⰵⰆⰶⰇⰷⰈⰸⰉⰹⰊⰺⰋⰻⰌⰼⰍⰽⰎⰾⰏⰿⰐⱀⰑⱁⰒⱂⰓⱃⰔⱄⰕⱅⰖⱆⰗⱇⰘⱈⰙⱉⰚⱊⰛⱋⰜⱌⰝⱍⰞⱎⰟⱏⰠⱐⰡⱑⰢⱒⰣⱓⰤⱔⰥⱕ" ++
  "ⰦⱖⰧⱗⰨⱘⰩⱙⰪⱚⰫⱛⰬⱜⰭⱝⰮⱞⰯⱟⱠⱡⱢɫⱣᵽⱤɽⱧⱨⱩⱪⱫⱬⱭɑⱮɱⱯɐⱰɒⱲⱳⱵⱶⱾȿⱿɀⲀⲁⲂⲃⲄⲅⲆⲇⲈⲉⲊⲋⲌⲍⲎⲏⲐⲑⲒⲓⲔⲕⲖⲗⲘⲙⲚⲛⲜⲝⲞⲟⲠⲡⲢⲣⲤⲥⲦⲧⲨⲩⲪⲫⲬⲭⲮⲯⲰⲱ" ++
  "ⲲⲳⲴⲵⲶⲷⲸⲹⲺⲻⲼⲽⲾⲿⳀⳁⳂⳃⳄⳅⳆⳇⳈⳉⳊⳋⳌⳍⳎⳏⳐⳑⳒⳓⳔⳕⳖⳗⳘⳙⳚⳛⳜⳝⳞⳟⳠⳡⳢⳣⳫⳬⳭⳮⳲⳳ"

/-- Symbols that become two characters. -/
def symbolTwo : String :=
  "‗ \u0333‥..″′′‶‵‵‼!!‾ \u0305⁇??⁈?!⁉!?₨rs℃°c℉°f№no℠sm™tmÅa\u030a⅟1⁄ⅡiiⅣivⅥviⅨixⅪxiⅱiiⅳivⅵviⅸixⅺxi" ++
  "↚←\u0338↛→\u0338↮↔\u0338⇍⇐\u0338⇎⇔\u0338⇏⇒\u0338∄∃\u0338∉∈\u0338∌∋\u0338∤∣\u0338∦∥\u0338∬∫∫∯∮∮" ++
  "≁∼\u0338≄≃\u0338≇≅\u0338≉≈\u0338≠=\u0338≢≡\u0338≭≍\u0338≮<\u0338≯>\u0338≰≤\u0338≱≥\u0338≴≲\u0338" ++
  "≵≳\u0338≸≶\u0338≹≷\u0338⊀≺\u0338⊁≻\u0338⊄⊂\u0338⊅⊃\u0338⊈⊆\u0338⊉⊇\u0338⊬⊢\u0338⊭⊨\u0338⊮⊩\u0338" ++
  "⊯⊫\u0338⋠≼\u0338⋡≽\u0338⋢⊑\u0338⋣⊒\u0338⋪⊲\u0338⋫⊳\u0338⋬⊴\u0338⋭⊵\u0338⑩10⑪11⑫12⑬13⑭14⑮15⑯16⑰17⑱18" ++
  "⑲19⑳20⒈1.⒉2.⒊3.⒋4.⒌5.⒍6.⒎7.⒏8.⒐9.⩵==⫝̸⫝\u0338"

/-- Symbols that become three characters. -/
def symbolThree : String :=
  "…...‴′′′‷‵‵‵℀a/c℁a/s℅c/o℆c/u℡tel⅓1⁄3⅔2⁄3⅕1⁄5⅖2⁄5⅗3⁄5⅘4⁄5⅙1⁄6⅚5⁄6⅛1⁄8⅜3⁄8⅝5⁄8⅞7⁄8ⅢiiiⅦviiⅫxiiⅲiiiⅶvii" ++
  "ⅻxii∭∫∫∫∰∮∮∮⑴(1)⑵(2)⑶(3)⑷(4)⑸(5)⑹(6)⑺(7)⑻(8)⑼(9)⒑10.⒒11.⒓12.⒔13.⒕14.⒖15.⒗16.⒘17.⒙18.⒚19.⒛20.⒜(a)⒝(b)" ++
  "⒞(c)⒟(d)⒠(e)⒡(f)⒢(g)⒣(h)⒤(i)⒥(j)⒦(k)⒧(l)⒨(m)⒩(n)⒪(o)⒫(p)⒬(q)⒭(r)⒮(s)⒯(t)⒰(u)⒱(v)⒲(w)⒳(x)⒴(y)⒵(z)⩴::=" ++
  "⩶==="

/-- Symbols that become four characters. -/
def symbolFour : String :=
  "⁗′′′′Ⅷviiiⅷviii⑽(10)⑾(11)⑿(12)⒀(13)⒁(14)⒂(15)⒃(16)⒄(17)⒅(18)⒆(19)⒇(20)⨌∫∫∫∫"

/-- Signs of East Asia that become one character. -/
def eastAsianOne : String :=
  "⺟母⻳龟⼀一⼁丨⼂丶⼃丿⼄乙⼅亅⼆二⼇亠⼈人⼉儿⼊入⼋八⼌冂⼍冖⼎冫⼏几⼐凵⼑刀⼒力⼓勹⼔匕⼕匚⼖匸" ++
  "⼗十⼘卜⼙卩⼚厂⼛厶⼜又⼝口⼞囗⼟土⼠士⼡夂⼢夊⼣夕⼤大⼥女⼦子⼧宀⼨寸⼩小⼪尢⼫尸⼬屮⼭山⼮巛⼯工" ++
  "⼰己⼱巾⼲干⼳幺⼴广⼵廴⼶廾⼷弋⼸弓⼹彐⼺彡⼻彳⼼心⼽戈⼾戶⼿手⽀支⽁攴⽂文⽃斗⽄斤⽅方⽆无⽇日⽈曰" ++
  "⽉月⽊木⽋欠⽌止⽍歹⽎殳⽏毋⽐比⽑毛⽒氏⽓气⽔水⽕火⽖爪⽗父⽘爻⽙爿⽚片⽛牙⽜牛⽝犬⽞玄⽟玉⽠瓜⽡瓦" ++
  "⽢甘⽣生⽤用⽥田⽦疋⽧疒⽨癶⽩白⽪皮⽫皿⽬目⽭矛⽮矢⽯石⽰示⽱禸⽲禾⽳穴⽴立⽵竹⽶米⽷糸⽸缶⽹网⽺羊" ++
  "⽻羽⽼老⽽而⽾耒⽿耳⾀聿⾁肉⾂臣⾃自⾄至⾅臼⾆舌⾇舛⾈舟⾉艮⾊色⾋艸⾌虍⾍虫⾎血⾏行⾐衣⾑襾⾒見⾓角" ++
  "⾔言⾕谷⾖豆⾗豕⾘豸⾙貝⾚赤⾛走⾜足⾝身⾞車⾟辛⾠辰⾡辵⾢邑⾣酉⾤釆⾥里⾦金⾧長⾨門⾩阜⾪隶⾫隹⾬雨" ++
  "⾭靑⾮非⾯面⾰革⾱韋⾲韭⾳音⾴頁⾵風⾶飛⾷食⾸首⾹香⾺馬⾻骨⾼高⾽髟⾾鬥⾿鬯⿀鬲⿁鬼⿂魚⿃鳥⿄鹵⿅鹿" ++
  "⿆麥⿇麻⿈黃⿉黍⿊黑⿋黹⿌黽⿍鼎⿎鼓⿏鼠⿐鼻⿑齊⿒齒⿓龍⿔龜⿕龠\u3000 〶〒〸十〹卄〺卅ㄱᄀㄲᄁㄳᆪ" ++
  "ㄴᄂㄵᆬㄶᆭㄷᄃㄸᄄㄹᄅㄺᆰㄻᆱㄼᆲㄽᆳㄾᆴㄿᆵㅀᄚㅁᄆㅂᄇㅃᄈㅄᄡㅅᄉㅆᄊㅇᄋㅈᄌㅉᄍㅊᄎㅋᄏㅌᄐㅍᄑㅎᄒ" ++
  "ㅏᅡㅐᅢㅑᅣㅒᅤㅓᅥㅔᅦㅕᅧㅖᅨㅗᅩㅘᅪㅙᅫㅚᅬㅛᅭㅜᅮㅝᅯㅞᅰㅟᅱㅠᅲㅡᅳㅢᅴㅣᅵㅤᅠㅥᄔㅦᄕㅧᇇㅨᇈㅩᇌㅪᇎㅫᇓㅬᇗㅭᇙㅮᄜ" ++
  "ㅯᇝㅰᇟㅱᄝㅲᄞㅳᄠㅴᄢㅵᄣㅶᄧㅷᄩㅸᄫㅹᄬㅺᄭㅻᄮㅼᄯㅽᄲㅾᄶㅿᅀㆀᅇㆁᅌㆂᇱㆃᇲㆄᅗㆅᅘㆆᅙㆇᆄㆈᆅ" ++
  "ㆉᆈㆊᆑㆋᆒㆌᆔㆍᆞㆎᆡ㆒一㆓二㆔三㆕四㆖上㆗中㆘下㆙甲㆚乙㆛丙㆜丁㆝天㆞地㆟人㉠ᄀ㉡ᄂ㉢ᄃ㉣ᄅ㉤ᄆ㉥ᄇ" ++
  "㉦ᄉ㉧ᄋ㉨ᄌ㉩ᄎ㉪ᄏ㉫ᄐ㉬ᄑ㉭ᄒ㊀一㊁二㊂三㊃四㊄五㊅六㊆七㊇八㊈九㊉十㊊月㊋火㊌水㊍木㊎金㊏土㊐日" ++
  "㊑株㊒有㊓社㊔名㊕特㊖財㊗祝㊘労㊙秘㊚男㊛女㊜適㊝優㊞印㊟注㊠項㊡休㊢写㊣正㊤上㊥中㊦下㊧左㊨右㊩医" ++
  "㊪宗㊫学㊬監㊭企㊮資㊯協㊰夜㋐ア㋑イ㋒ウ㋓エ㋔オ㋕カ㋖キ㋗ク㋘ケ㋙コ㋚サ㋛シ㋜ス㋝セ㋞ソ㋟タ㋠チ㋡ツ" ++
  "㋢テ㋣ト㋤ナ㋥ニ㋦ヌ㋧ネ㋨ノ㋩ハ㋪ヒ㋫フ㋬ヘ㋭ホ㋮マ㋯ミ㋰ム㋱メ㋲モ㋳ヤ㋴ユ㋵ヨ㋶ラ㋷リ㋸ル㋹レ㋺ロ" ++
  "㋻ワ㋼ヰ㋽ヱ㋾ヲꙀꙁꙂꙃꙄꙅꙆꙇꙈꙉꙊꙋꙌꙍꙎꙏꙐꙑꙒꙓꙔꙕꙖꙗꙘꙙꙚꙛꙜꙝꙞꙟꙠꙡꙢꙣꙤꙥꙦꙧꙨꙩꙪꙫꙬꙭꚀꚁꚂꚃꚄꚅꚆꚇꚈꚉꚊꚋꚌꚍꚎꚏꚐꚑꚒꚓꚔꚕꚖꚗꚘꚙꚚꚛꜢꜣꜤꜥꜦꜧꜨꜩꜪꜫ" ++
  "ꜬꜭꜮꜯꜲꜳꜴꜵꜶꜷꜸꜹꜺꜻꜼꜽꜾꜿꝀꝁꝂꝃꝄꝅꝆꝇꝈꝉꝊꝋꝌꝍꝎꝏꝐꝑꝒꝓꝔꝕꝖꝗꝘꝙꝚꝛꝜꝝꝞꝟꝠꝡꝢꝣꝤꝥꝦꝧꝨꝩꝪꝫꝬꝭꝮꝯꝹꝺꝻꝼꝽᵹꝾꝿꞀꞁꞂꞃꞄꞅꞆꞇꞋꞌꞍɥꞐꞑꞒꞓꞖꞗꞘꞙꞚꞛꞜꞝꞞꞟ" ++
  "ꞠꞡꞢꞣꞤꞥꞦꞧꞨꞩꞪɦꞫɜꞬɡꞭɬꞮɪꞰʞꞱʇꞲʝꞳꭓꞴꞵꞶꞷꞸꞹꞺꞻꞼꞽꞾꞿꟀꟁꟂꟃꟄꞔꟅʂꟆᶎꟇꟈꟉꟊꟐꟑꟖꟗꟘꟙꟵꟶ"

/-- Signs of East Asia that become two characters. -/
def eastAsianTwo : String :=
  "がか\u3099ぎき\u3099ぐく\u3099げけ\u3099ごこ\u3099ざさ\u3099じし\u3099ずす\u3099ぜせ\u3099ぞそ\u3099" ++
  "だた\u3099ぢち\u3099づつ\u3099でて\u3099どと\u3099ばは\u3099ぱは\u309aびひ\u3099ぴひ\u309aぶふ\u3099" ++
  "ぷふ\u309aべへ\u3099ぺへ\u309aぼほ\u3099ぽほ\u309aゔう\u3099゛ \u3099゜ \u309aゞゝ\u3099ゟより" ++
  "ガカ\u3099ギキ\u3099グク\u3099ゲケ\u3099ゴコ\u3099ザサ\u3099ジシ\u3099ズス\u3099ゼセ\u3099ゾソ\u3099" ++
  "ダタ\u3099ヂチ\u3099ヅツ\u3099デテ\u3099ドト\u3099バハ\u3099パハ\u309aビヒ\u3099ピヒ\u309aブフ\u3099" ++
  "プフ\u309aベヘ\u3099ペヘ\u309aボホ\u3099ポホ\u309aヴウ\u3099ヷワ\u3099ヸヰ\u3099ヹヱ\u3099ヺヲ\u3099" ++
  "ヾヽ\u3099ヿコト㉑21㉒22㉓23㉔24㉕25㉖26㉗27㉘28㉙29㉚30㉛31㉜32㉝33㉞34㉟35㉮가㉯나㉰다㉱라" ++
  "㉲마㉳바㉴사㉵아㉶자㉷차㉸카㉹타㉺파㉻하㊱36㊲37㊳38㊴39㊵40㊶41㊷42㊸43㊹44㊺45㊻46㊼47" ++
  "㊽48㊾49㊿50㋀1月㋁2月㋂3月㋃4月㋄5月㋅6月㋆7月㋇8月㋈9月㌔キロ㌧トン㌨ナノ㌿ホン㍉ミリ㍒リラ㍕レム" ++
  "㍘0点㍙1点㍚2点㍛3点㍜4点㍝5点㍞6点㍟7点㍠8点㍡9点㍲da㍳au㍵ov㍶pc㍻平成㍼昭和㍽大正㍾明治㎀pa㎁na" ++
  "㎂μa㎃ma㎄ka㎅kb㎆mb㎇gb㎊pf㎋nf㎌μf㎍μg㎎mg㎏kg㎐hz㎕μl㎖ml㎗dl㎘kl㎙fm㎚nm㎛μm㎜mm㎝cm㎞km㎡m2㎥m3" ++
  "㎩pa㎰ps㎱ns㎲μs㎳ms㎴pv㎵nv㎶μv㎷mv㎸kv㎹mv㎺pw㎻nw㎼μw㎽mw㎾kw㎿mw㏀kω㏁mω㏃bq㏄cc㏅cd㏈db㏉gy㏊ha" ++
  "㏋hp㏌in㏍kk㏎km㏏kt㏐lm㏑ln㏓lx㏔mb㏗ph㏚pr㏛sr㏜sv㏝wb㏠1日㏡2日㏢3日㏣4日㏤5日㏥6日㏦7日㏧8日" ++
  "㏨9日"

/-- Signs of East Asia that become three characters. -/
def eastAsianThree : String :=
  "㈀(ᄀ)㈁(ᄂ)㈂(ᄃ)㈃(ᄅ)㈄(ᄆ)㈅(ᄇ)㈆(ᄉ)㈇(ᄋ)㈈(ᄌ)㈉(ᄎ)㈊(ᄏ)㈋(ᄐ)㈌(ᄑ)㈍(ᄒ)㈠(一)㈡(二)" ++
  "㈢(三)㈣(四)㈤(五)㈥(六)㈦(七)㈧(八)㈨(九)㈩(十)㈪(月)㈫(火)㈬(水)㈭(木)㈮(金)㈯(土)㈰(日)㈱(株)" ++
  "㈲(有)㈳(社)㈴(名)㈵(特)㈶(財)㈷(祝)㈸(労)㈹(代)㈺(呼)㈻(学)㈼(監)㈽(企)㈾(資)㈿(協)㉀(祭)㉁(休)" ++
  "㉂(自)㉃(至)㋉10月㋊11月㋋12月㌃アール㌅インチ㌆ウォン㌉オンス㌊オーム㌋カイリ㌜ケース㌝コルナ" ++
  "㌢センチ㌣セント㌥テ\u3099シ㌦ト\u3099ル㌩ノット㌪ハイツ㌰ヒ\u309aコ㌱ヒ\u3099ル㌵フラン㌷ヘ\u309aソ" ++
  "㌹ヘルツ㍁ホール㍂ホーン㍄マイル㍅マッハ㍆マルク㍋メカ\u3099㍏ヤール㍐ユアン㍗ワット㍢10点㍣11点" ++
  "㍤12点㍥13点㍦14点㍧15点㍨16点㍩17点㍪18点㍫19点㍬20点㍭21点㍮22点㍯23点㍰24点㍱hpa㍴bar㎈cal㎑khz" ++
  "㎒mhz㎓ghz㎔thz㎟mm2㎠cm2㎢km2㎣mm3㎤cm3㎦km3㎧m∕s㎪kpa㎫mpa㎬gpa㎭rad㏇co.㏒log㏕mil㏖mol㏙ppm" ++
  "㏩10日㏪11日㏫12日㏬13日㏭14日㏮15日㏯16日㏰17日㏱18日㏲19日㏳20日㏴21日㏵22日㏶23日㏷24日㏸25日" ++
  "㏹26日㏺27日㏻28日㏼29日㏽30日㏾31日"

/-- Signs of East Asia that become four characters. -/
def eastAsianFour : String :=
  "㈎(가)㈏(나)㈐(다)㈑(라)㈒(마)㈓(바)㈔(사)㈕(아)㈖(자)㈗(차)㈘(카)㈙(타)㈚(파)㈛(하)" ++
  "㈜(주)㌁アルファ㌈エーカー㌌カラット㌍カロリー㌎カ\u3099ロン㌏カ\u3099ンマ㌐キ\u3099カ\u3099" ++
  "㌑キ\u3099ニー㌒キュリー㌘ク\u3099ラム㌛クローネ㌞コーホ\u309a㌟サイクル㌤タ\u3099ース㌬ハ\u309aーツ" ++
  "㌯ヒ\u309aクル㌳フィート㌸ヘ\u309aニヒ㌺ヘ\u309aンス㌼ヘ\u3099ータ㌾ホ\u3099ルト㍃マイクロ㍈ミクロン" ++
  "㍍メートル㍎ヤート\u3099㍑リットル㍓ルヒ\u309aー㍿株式会社㎉kcal㎨m∕s2㏂a.m.㏆c∕kg㏘p.m."

/-- Ideographs that are the same as others that become one character. -/
def ideographOne : String :=
  "豈豈更更車車賈賈滑滑串串句句龜龜龜龜契契金金喇喇奈奈懶懶癩癩羅羅蘿蘿螺螺裸裸邏邏樂樂洛洛烙烙珞珞落落" ++
  "酪酪駱駱亂亂卵卵欄欄爛爛蘭蘭鸞鸞嵐嵐濫濫藍藍襤襤拉拉臘臘蠟蠟廊廊朗朗浪浪狼狼郎郎來來冷冷勞勞擄擄櫓櫓" ++
  "爐爐盧盧老老蘆蘆虜虜路路露露魯魯鷺鷺碌碌祿祿綠綠菉菉錄錄鹿鹿論論壟壟弄弄籠籠聾聾牢牢磊磊賂賂雷雷壘壘" ++
  "屢屢樓樓淚淚漏漏累累縷縷陋陋勒勒肋肋凜凜凌凌稜稜綾綾菱菱陵陵讀讀拏拏樂樂諾諾丹丹寧寧怒怒率率異異北北" ++
  "磻磻便便復復不不泌泌數數索索參參塞塞省省葉葉說說殺殺辰辰沈沈拾拾若若掠掠略略亮亮兩兩凉凉梁梁糧糧良良" ++
  "諒諒量量勵勵呂呂女女廬廬旅旅濾濾礪礪閭閭驪驪麗麗黎黎力力曆曆歷歷轢轢年年憐憐戀戀撚撚漣漣煉煉璉璉秊秊" ++
  "練練聯聯輦輦蓮蓮連連鍊鍊列列劣劣咽咽烈烈裂裂說說廉廉念念捻捻殮殮簾簾獵獵令令囹囹寧寧嶺嶺怜怜玲玲瑩瑩" ++
  "羚羚聆聆鈴鈴零零靈靈領領例例禮禮醴醴隸隸惡惡了了僚僚寮寮尿尿料料樂樂燎燎療療蓼蓼遼遼龍龍暈暈阮阮劉劉" ++
  "杻杻柳柳流流溜溜琉琉留留硫硫紐紐類類六六戮戮陸陸倫倫崙崙淪淪輪輪律律慄慄栗栗率率隆隆利利吏吏履履易易" ++
  "李李梨梨泥泥理理痢痢罹罹裏裏裡裡里里離離匿匿溺溺吝吝燐燐璘璘藺藺隣隣鱗鱗麟麟林林淋淋臨臨立立笠笠粒粒" ++
  "狀狀炙炙識識什什茶茶刺刺切切度度拓拓糖糖宅宅洞洞暴暴輻輻行行降降見見廓廓兀兀嗀嗀塚塚晴晴凞凞猪猪益益" ++
  "礼礼神神祥祥福福靖靖精精羽羽蘒蘒諸諸逸逸都都飯飯飼飼館館鶴鶴侮侮僧僧免免勉勉勤勤卑卑喝喝嘆嘆器器塀塀" ++
  "墨墨層層屮屮悔悔慨慨憎憎懲懲敏敏既既暑暑梅梅海海渚渚漢漢煮煮爫爫琢琢碑碑社社祉祉祈祈祐祐祖祖祝祝禍禍" ++
  "禎禎穀穀突突節節練練縉縉繁繁署署者者臭臭艹艹艹艹著著褐褐視視謁謁謹謹賓賓贈贈辶辶逸逸難難響響頻頻"

/-- Forms in which letters are shown that become one character. -/
def presentationOne : String :=
  "\ufb20\u05e2\ufb21\u05d0\ufb22\u05d3\ufb23\u05d4\ufb24\u05db\ufb25\u05dc\ufb26\u05dd\ufb27\u05e8" ++
  "\ufb28\u05ea﬩+\ufb50\u0671\ufb51\u0671\ufb52\u067b\ufb53\u067b\ufb54\u067b\ufb55\u067b\ufb56\u067e" ++
  "\ufb57\u067e\ufb58\u067e\ufb59\u067e\ufb5a\u0680\ufb5b\u0680\ufb5c\u0680\ufb5d\u0680\ufb5e\u067a" ++
  "\ufb5f\u067a\ufb60\u067a\ufb61\u067a\ufb62\u067f\ufb63\u067f\ufb64\u067f\ufb65\u067f\ufb66\u0679" ++
  "\ufb67\u0679\ufb68\u0679\ufb69\u0679\ufb6a\u06a4\ufb6b\u06a4\ufb6c\u06a4\ufb6d\u06a4\ufb6e\u06a6" ++
  "\ufb6f\u06a6\ufb70\u06a6\ufb71\u06a6\ufb72\u0684\ufb73\u0684\ufb74\u0684\ufb75\u0684\ufb76\u0683" ++
  "\ufb77\u0683\ufb78\u0683\ufb79\u0683\ufb7a\u0686\ufb7b\u0686\ufb7c\u0686\ufb7d\u0686\ufb7e\u0687" ++
  "\ufb7f\u0687\ufb80\u0687\ufb81\u0687\ufb82\u068d\ufb83\u068d\ufb84\u068c\ufb85\u068c\ufb86\u068e" ++
  "\ufb87\u068e\ufb88\u0688\ufb89\u0688\ufb8a\u0698\ufb8b\u0698\ufb8c\u0691\ufb8d\u0691\ufb8e\u06a9" ++
  "\ufb8f\u06a9\ufb90\u06a9\ufb91\u06a9\ufb92\u06af\ufb93\u06af\ufb94\u06af\ufb95\u06af\ufb96\u06b3" ++
  "\ufb97\u06b3\ufb98\u06b3\ufb99\u06b3\ufb9a\u06b1\ufb9b\u06b1\ufb9c\u06b1\ufb9d\u06b1\ufb9e\u06ba" ++
  "\ufb9f\u06ba\ufba0\u06bb\ufba1\u06bb\ufba2\u06bb\ufba3\u06bb\ufba6\u06c1\ufba7\u06c1\ufba8\u06c1" ++
  "\ufba9\u06c1\ufbaa\u06be\ufbab\u06be\ufbac\u06be\ufbad\u06be\ufbae\u06d2\ufbaf\u06d2\ufbd3\u06ad" ++
  "\ufbd4\u06ad\ufbd5\u06ad\ufbd6\u06ad\ufbd7\u06c7\ufbd8\u06c7\ufbd9\u06c6\ufbda\u06c6\ufbdb\u06c8" ++
  "\ufbdc\u06c8\ufbde\u06cb\ufbdf\u06cb\ufbe0\u06c5\ufbe1\u06c5\ufbe2\u06c9\ufbe3\u06c9\ufbe4\u06d0" ++
  "\ufbe5\u06d0\ufbe6\u06d0\ufbe7\u06d0\ufbe8\u0649\ufbe9\u0649\ufbfc\u06cc\ufbfd\u06cc\ufbfe\u06cc" ++
  "\ufbff\u06cc︱—︲–︳_︴_︵(︶)︷\x7b︸\x7d︹〔︺〕︻【︼】︽《︾》︿〈﹀〉﹁「﹂」﹃『﹄』﹍_﹎_﹏_" ++
  "﹐,﹑、﹒.﹔;﹕:﹖?﹗!﹘—﹙(﹚)﹛\x7b﹜\x7d﹝〔﹞〕﹟#﹠&﹡*﹢+﹣-﹤<﹥>﹦=﹨\\﹩$﹪%﹫@\ufe80\u0621" ++
  "\ufe8d\u0627\ufe8e\u0627\ufe8f\u0628\ufe90\u0628\ufe91\u0628\ufe92\u0628\ufe93\u0629\ufe94\u0629" ++
  "\ufe95\u062a\ufe96\u062a\ufe97\u062a\ufe98\u062a\ufe99\u062b\ufe9a\u062b\ufe9b\u062b\ufe9c\u062b" ++
  "\ufe9d\u062c\ufe9e\u062c\ufe9f\u062c\ufea0\u062c\ufea1\u062d\ufea2\u062d\ufea3\u062d\ufea4\u062d" ++
  "\ufea5\u062e\ufea6\u062e\ufea7\u062e\ufea8\u062e\ufea9\u062f\ufeaa\u062f\ufeab\u0630\ufeac\u0630" ++
  "\ufead\u0631\ufeae\u0631\ufeaf\u0632\ufeb0\u0632\ufeb1\u0633\ufeb2\u0633\ufeb3\u0633\ufeb4\u0633" ++
  "\ufeb5\u0634\ufeb6\u0634\ufeb7\u0634\ufeb8\u0634\ufeb9\u0635\ufeba\u0635\ufebb\u0635\ufebc\u0635" ++
  "\ufebd\u0636\ufebe\u0636\ufebf\u0636\ufec0\u0636\ufec1\u0637\ufec2\u0637\ufec3\u0637\ufec4\u0637" ++
  "\ufec5\u0638\ufec6\u0638\ufec7\u0638\ufec8\u0638\ufec9\u0639\ufeca\u0639\ufecb\u0639\ufecc\u0639" ++
  "\ufecd\u063a\ufece\u063a\ufecf\u063a\ufed0\u063a\ufed1\u0641\ufed2\u0641\ufed3\u0641\ufed4\u0641" ++
  "\ufed5\u0642\ufed6\u0642\ufed7\u0642\ufed8\u0642\ufed9\u0643\ufeda\u0643\ufedb\u0643\ufedc\u0643" ++
  "\ufedd\u0644\ufede\u0644\ufedf\u0644\ufee0\u0644\ufee1\u0645\ufee2\u0645\ufee3\u0645\ufee4\u0645" ++
  "\ufee5\u0646\ufee6\u0646\ufee7\u0646\ufee8\u0646\ufee9\u0647\ufeea\u0647\ufeeb\u0647\ufeec\u0647" ++
  "\ufeed\u0648\ufeee\u0648\ufeef\u0649\ufef0\u0649\ufef1\u064a\ufef2\u064a\ufef3\u064a\ufef4\u064a"

/-- Forms in which letters are shown that become two characters. -/
def presentationTwo : String :=
  "ﬀffﬁfiﬂflﬅstﬆstﬓմնﬔմեﬕմիﬖվնﬗմխ\ufb1d\u05d9\u05b4\ufb1f\u05f2\u05b7\ufb2a\u05e9\u05c1" ++
  "\ufb2b\u05e9\u05c2\ufb2e\u05d0\u05b7\ufb2f\u05d0\u05b8\ufb30\u05d0\u05bc\ufb31\u05d1\u05bc" ++
  "\ufb32\u05d2\u05bc\ufb33\u05d3\u05bc\ufb34\u05d4\u05bc\ufb35\u05d5\u05bc\ufb36\u05d6\u05bc" ++
  "\ufb38\u05d8\u05bc\ufb39\u05d9\u05bc\ufb3a\u05da\u05bc\ufb3b\u05db\u05bc\ufb3c\u05dc\u05bc" ++
  "\ufb3e\u05de\u05bc\ufb40\u05e0\u05bc\ufb41\u05e1\u05bc\ufb43\u05e3\u05bc\ufb44\u05e4\u05bc" ++
  "\ufb46\u05e6\u05bc\ufb47\u05e7\u05bc\ufb48\u05e8\u05bc\ufb49\u05e9\u05bc\ufb4a\u05ea\u05bc" ++
  "\ufb4b\u05d5\u05b9\ufb4c\u05d1\u05bf\ufb4d\u05db\u05bf\ufb4e\u05e4\u05bf\ufb4f\u05d0\u05dc" ++
  "\ufba4\u06d5\u0654\ufba5\u06d5\u0654\ufbb0\u06d2\u0654\ufbb1\u06d2\u0654\ufbdd\u06c7\u0674" ++
  "\ufc05\u0628\u062c\ufc06\u0628\u062d\ufc07\u0628\u062e\ufc08\u0628\u0645\ufc09\u0628\u0649" ++
  "\ufc0a\u0628\u064a\ufc0b\u062a\u062c\ufc0c\u062a\u062d\ufc0d\u062a\u062e\ufc0e\u062a\u0645" ++
  "\ufc0f\u062a\u0649\ufc10\u062a\u064a\ufc11\u062b\u062c\ufc12\u062b\u0645\ufc13\u062b\u0649" ++
  "\ufc14\u062b\u064a\ufc15\u062c\u062d\ufc16\u062c\u0645\ufc17\u062d\u062c\ufc18\u062d\u0645" ++
  "\ufc19\u062e\u062c\ufc1a\u062e\u062d\ufc1b\u062e\u0645\ufc1c\u0633\u062c\ufc1d\u0633\u062d" ++
  "\ufc1e\u0633\u062e\ufc1f\u0633\u0645\ufc20\u0635\u062d\ufc21\u0635\u0645\ufc22\u0636\u062c" ++
  "\ufc23\u0636\u062d\ufc24\u0636\u062e\ufc25\u0636\u0645\ufc26\u0637\u062d\ufc27\u0637\u0645" ++
  "\ufc28\u0638\u0645\ufc29\u0639\u062c\ufc2a\u0639\u0645\ufc2b\u063a\u062c\ufc2c\u063a\u0645" ++
  "\ufc2d\u0641\u062c\ufc2e\u0641\u062d\ufc2f\u0641\u062e\ufc30\u0641\u0645\ufc31\u0641\u0649" ++
  "\ufc32\u0641\u064a\ufc33\u0642\u062d\ufc34\u0642\u0645\ufc35\u0642\u0649\ufc36\u0642\u064a" ++
  "\ufc37\u0643\u0627\ufc38\u0643\u062c\ufc39\u0643\u062d\ufc3a\u0643\u062e\ufc3b\u0643\u0644" ++
  "\ufc3c\u0643\u0645\ufc3d\u0643\u0649\ufc3e\u0643\u064a\ufc3f\u0644\u062c\ufc40\u0644\u062d" ++
  "\ufc41\u0644\u062e\ufc42\u0644\u0645\ufc43\u0644\u0649\ufc44\u0644\u064a\ufc45\u0645\u062c" ++
  "\ufc46\u0645\u062d\ufc47\u0645\u062e\ufc48\u0645\u0645\ufc49\u0645\u0649\ufc4a\u0645\u064a" ++
  "\ufc4b\u0646\u062c\ufc4c\u0646\u062d\ufc4d\u0646\u062e\ufc4e\u0646\u0645\ufc4f\u0646\u0649" ++
  "\ufc50\u0646\u064a\ufc51\u0647\u062c\ufc52\u0647\u0645\ufc53\u0647\u0649\ufc54\u0647\u064a" ++
  "\ufc55\u064a\u062c\ufc56\u064a\u062d\ufc57\u064a\u062e\ufc58\u064a\u0645\ufc59\u064a\u0649" ++
  "\ufc5a\u064a\u064a\ufc5b\u0630\u0670\ufc5c\u0631\u0670\ufc5d\u0649\u0670\ufc6a\u0628\u0631" ++
  "\ufc6b\u0628\u0632\ufc6c\u0628\u0645\ufc6d\u0628\u0646\ufc6e\u0628\u0649\ufc6f\u0628\u064a" ++
  "\ufc70\u062a\u0631\ufc71\u062a\u0632\ufc72\u062a\u0645\ufc73\u062a\u0646\ufc74\u062a\u0649" ++
  "\ufc75\u062a\u064a\ufc76\u062b\u0631\ufc77\u062b\u0632\ufc78\u062b\u0645\ufc79\u062b\u0646" ++
  "\ufc7a\u062b\u0649\ufc7b\u062b\u064a\ufc7c\u0641\u0649\ufc7d\u0641\u064a\ufc7e\u0642\u0649" ++
  "\ufc7f\u0642\u064a\ufc80\u0643\u0627\ufc81\u0643\u0644\ufc82\u0643\u0645\ufc83\u0643\u0649" ++
  "\ufc84\u0643\u064a\ufc85\u0644\u0645\ufc86\u0644\u0649\ufc87\u0644\u064a\ufc88\u0645\u0627" ++
  "\ufc89\u0645\u0645\ufc8a\u0646\u0631\ufc8b\u0646\u0632\ufc8c\u0646\u0645\ufc8d\u0646\u0646" ++
  "\ufc8e\u0646\u0649\ufc8f\u0646\u064a\ufc90\u0649\u0670\ufc91\u064a\u0631\ufc92\u064a\u0632" ++
  "\ufc93\u064a\u0645\ufc94\u064a\u0646\ufc95\u064a\u0649\ufc96\u064a\u064a\ufc9c\u0628\u062c" ++
  "\ufc9d\u0628\u062d\ufc9e\u0628\u062e\ufc9f\u0628\u0645\ufca0\u0628\u0647\ufca1\u062a\u062c" ++
  "\ufca2\u062a\u062d\ufca3\u062a\u062e\ufca4\u062a\u0645\ufca5\u062a\u0647\ufca6\u062b\u0645" ++
  "\ufca7\u062c\u062d\ufca8\u062c\u0645\ufca9\u062d\u062c\ufcaa\u062d\u0645\ufcab\u062e\u062c" ++
  "\ufcac\u062e\u0645\ufcad\u0633\u062c\ufcae\u0633\u062d\ufcaf\u0633\u062e\ufcb0\u0633\u0645" ++
  "\ufcb1\u0635\u062d\ufcb2\u0635\u062e\ufcb3\u0635\u0645\ufcb4\u0636\u062c\ufcb5\u0636\u062d" ++
  "\ufcb6\u0636\u062e\ufcb7\u0636\u0645\ufcb8\u0637\u062d\ufcb9\u0638\u0645\ufcba\u0639\u062c" ++
  "\ufcbb\u0639\u0645\ufcbc\u063a\u062c\ufcbd\u063a\u0645\ufcbe\u0641\u062c\ufcbf\u0641\u062d" ++
  "\ufcc0\u0641\u062e\ufcc1\u0641\u0645\ufcc2\u0642\u062d\ufcc3\u0642\u0645\ufcc4\u0643\u062c" ++
  "\ufcc5\u0643\u062d\ufcc6\u0643\u062e\ufcc7\u0643\u0644\ufcc8\u0643\u0645\ufcc9\u0644\u062c" ++
  "\ufcca\u0644\u062d\ufccb\u0644\u062e\ufccc\u0644\u0645\ufccd\u0644\u0647\ufcce\u0645\u062c" ++
  "\ufccf\u0645\u062d\ufcd0\u0645\u062e\ufcd1\u0645\u0645\ufcd2\u0646\u062c\ufcd3\u0646\u062d" ++
  "\ufcd4\u0646\u062e\ufcd5\u0646\u0645\ufcd6\u0646\u0647\ufcd7\u0647\u062c\ufcd8\u0647\u0645" ++
  "\ufcd9\u0647\u0670\ufcda\u064a\u062c\ufcdb\u064a\u062d\ufcdc\u064a\u062e\ufcdd\u064a\u0645" ++
  "\ufcde\u064a\u0647\ufce1\u0628\u0645\ufce2\u0628\u0647\ufce3\u062a\u0645\ufce4\u062a\u0647" ++
  "\ufce5\u062b\u0645\ufce6\u062b\u0647\ufce7\u0633\u0645\ufce8\u0633\u0647\ufce9\u0634\u0645" ++
  "\ufcea\u0634\u0647\ufceb\u0643\u0644\ufcec\u0643\u0645\ufced\u0644\u0645\ufcee\u0646\u0645" ++
  "\ufcef\u0646\u0647\ufcf0\u064a\u0645\ufcf1\u064a\u0647\ufcf5\u0637\u0649\ufcf6\u0637\u064a" ++
  "\ufcf7\u0639\u0649\ufcf8\u0639\u064a\ufcf9\u063a\u0649\ufcfa\u063a\u064a\ufcfb\u0633\u0649" ++
  "\ufcfc\u0633\u064a\ufcfd\u0634\u0649\ufcfe\u0634\u064a\ufcff\u062d\u0649\ufd00\u062d\u064a" ++
  "\ufd01\u062c\u0649\ufd02\u062c\u064a\ufd03\u062e\u0649\ufd04\u062e\u064a\ufd05\u0635\u0649" ++
  "\ufd06\u0635\u064a\ufd07\u0636\u0649\ufd08\u0636\u064a\ufd09\u0634\u062c\ufd0a\u0634\u062d" ++
  "\ufd0b\u0634\u062e\ufd0c\u0634\u0645\ufd0d\u0634\u0631\ufd0e\u0633\u0631\ufd0f\u0635\u0631" ++
  "\ufd10\u0636\u0631\ufd11\u0637\u0649\ufd12\u0637\u064a\ufd13\u0639\u0649\ufd14\u0639\u064a" ++
  "\ufd15\u063a\u0649\ufd16\u063a\u064a\ufd17\u0633\u0649\ufd18\u0633\u064a\ufd19\u0634\u0649" ++
  "\ufd1a\u0634\u064a\ufd1b\u062d\u0649\ufd1c\u062d\u064a\ufd1d\u062c\u0649\ufd1e\u062c\u064a" ++
  "\ufd1f\u062e\u0649\ufd20\u062e\u064a\ufd21\u0635\u0649\ufd22\u0635\u064a\ufd23\u0636\u0649" ++
  "\ufd24\u0636\u064a\ufd25\u0634\u062c\ufd26\u0634\u062d\ufd27\u0634\u062e\ufd28\u0634\u0645" ++
  "\ufd29\u0634\u0631\ufd2a\u0633\u0631\ufd2b\u0635\u0631\ufd2c\u0636\u0631\ufd2d\u0634\u062c" ++
  "\ufd2e\u0634\u062d\ufd2f\u0634\u062e\ufd30\u0634\u0645\ufd31\u0633\u0647\ufd32\u0634\u0647" ++
  "\ufd33\u0637\u0645\ufd34\u0633\u062c\ufd35\u0633\u062d\ufd36\u0633\u062e\ufd37\u0634\u062c" ++
  "\ufd38\u0634\u062d\ufd39\u0634\u062e\ufd3a\u0637\u0645\ufd3b\u0638\u0645\ufd3c\u0627\u064b" ++
  "\ufd3d\u0627\u064b︰..﹉ \u0305﹊ \u0305﹋ \u0305﹌ \u0305\ufe70 \u064b\ufe71\u0640\u064b" ++
  "\ufe72 \u064c\ufe74 \u064d\ufe76 \u064e\ufe77\u0640\u064e\ufe78 \u064f\ufe79\u0640\u064f" ++
  "\ufe7a \u0650\ufe7b\u0640\u0650\ufe7c \u0651\ufe7d\u0640\u0651\ufe7e \u0652\ufe7f\u0640\u0652" ++
  "\ufe81\u0627\u0653\ufe82\u0627\u0653\ufe83\u0627\u0654\ufe84\u0627\u0654\ufe85\u0648\u0654" ++
  "\ufe86\u0648\u0654\ufe87\u0627\u0655\ufe88\u0627\u0655\ufe89\u064a\u0654\ufe8a\u064a\u0654" ++
  "\ufe8b\u064a\u0654\ufe8c\u064a\u0654\ufefb\u0644\u0627\ufefc\u0644\u0627"

/-- Forms in which letters are shown that become three characters. -/
def presentationThree : String :=
  "ﬃffiﬄffl\ufb2c\u05e9\u05bc\u05c1\ufb2d\u05e9\u05bc\u05c2\ufbea\u064a\u0654\u0627" ++
  "\ufbeb\u064a\u0654\u0627\ufbec\u064a\u0654\u06d5\ufbed\u064a\u0654\u06d5\ufbee\u064a\u0654\u0648" ++
  "\ufbef\u064a\u0654\u0648\ufbf0\u064a\u0654\u06c7\ufbf1\u064a\u0654\u06c7\ufbf2\u064a\u0654\u06c6" ++
  "\ufbf3\u064a\u0654\u06c6\ufbf4\u064a\u0654\u06c8\ufbf5\u064a\u0654\u06c8\ufbf6\u064a\u0654\u06d0" ++
  "\ufbf7\u064a\u0654\u06d0\ufbf8\u064a\u0654\u06d0\ufbf9\u064a\u0654\u0649\ufbfa\u064a\u0654\u0649" ++
  "\ufbfb\u064a\u0654\u0649\ufc00\u064a\u0654\u062c\ufc01\u064a\u0654\u062d\ufc02\u064a\u0654\u0645" ++
  "\ufc03\u064a\u0654\u0649\ufc04\u064a\u0654\u064a\ufc5e \u064c\u0651\ufc5f \u064d\u0651" ++
  "\ufc60 \u064e\u0651\ufc61 \u064f\u0651\ufc62 \u0650\u0651\ufc63 \u0651\u0670\ufc64\u064a\u0654\u0631" ++
  "\ufc65\u064a\u0654\u0632\ufc66\u064a\u0654\u0645\ufc67\u064a\u0654\u0646\ufc68\u064a\u0654\u0649" ++
  "\ufc69\u064a\u0654\u064a\ufc97\u064a\u0654\u062c\ufc98\u064a\u0654\u062d\ufc99\u064a\u0654\u062e" ++
  "\ufc9a\u064a\u0654\u0645\ufc9b\u064a\u0654\u0647\ufcdf\u064a\u0654\u0645\ufce0\u064a\u0654\u0647" ++
  "\ufcf2\u0640\u064e\u0651\ufcf3\u0640\u064f\u0651\ufcf4\u0640\u0650\u0651\ufd50\u062a\u062c\u0645" ++
  "\ufd51\u062a\u062d\u062c\ufd52\u062a\u062d\u062c\ufd53\u062a\u062d\u0645\ufd54\u062a\u062e\u0645" ++
  "\ufd55\u062a\u0645\u062c\ufd56\u062a\u0645\u062d\ufd57\u062a\u0645\u062e\ufd58\u062c\u0645\u062d" ++
  "\ufd59\u062c\u0645\u062d\ufd5a\u062d\u0645\u064a\ufd5b\u062d\u0645\u0649\ufd5c\u0633\u062d\u062c" ++
  "\ufd5d\u0633\u062c\u062d\ufd5e\u0633\u062c\u0649\ufd5f\u0633\u0645\u062d\ufd60\u0633\u0645\u062d" ++
  "\ufd61\u0633\u0645\u062c\ufd62\u0633\u0645\u0645\ufd63\u0633\u0645\u0645\ufd64\u0635\u062d\u062d" ++
  "\ufd65\u0635\u062d\u062d\ufd66\u0635\u0645\u0645\ufd67\u0634\u062d\u0645\ufd68\u0634\u062d\u0645" ++
  "\ufd69\u0634\u062c\u064a\ufd6a\u0634\u0645\u062e\ufd6b\u0634\u0645\u062e\ufd6c\u0634\u0645\u0645" ++
  "\ufd6d\u0634\u0645\u0645\ufd6e\u0636\u062d\u0649\ufd6f\u0636\u062e\u0645\ufd70\u0636\u062e\u0645" ++
  "\ufd71\u0637\u0645\u062d\ufd72\u0637\u0645\u062d\ufd73\u0637\u0645\u0645\ufd74\u0637\u0645\u064a" ++
  "\ufd75\u0639\u062c\u0645\ufd76\u0639\u0645\u0645\ufd77\u0639\u0645\u0645\ufd78\u0639\u0645\u0649" ++
  "\ufd79\u063a\u0645\u0645\ufd7a\u063a\u0645\u064a\ufd7b\u063a\u0645\u0649\ufd7c\u0641\u062e\u0645" ++
  "\ufd7d\u0641\u062e\u0645\ufd7e\u0642\u0645\u062d\ufd7f\u0642\u0645\u0645\ufd80\u0644\u062d\u0645" ++
  "\ufd81\u0644\u062d\u064a\ufd82\u0644\u062d\u0649\ufd83\u0644\u062c\u062c\ufd84\u0644\u062c\u062c" ++
  "\ufd85\u0644\u062e\u0645\ufd86\u0644\u062e\u0645\ufd87\u0644\u0645\u062d\ufd88\u0644\u0645\u062d" ++
  "\ufd89\u0645\u062d\u062c\ufd8a\u0645\u062d\u0645\ufd8b\u0645\u062d\u064a\ufd8c\u0645\u062c\u062d" ++
  "\ufd8d\u0645\u062c\u0645\ufd8e\u0645\u062e\u062c\ufd8f\u0645\u062e\u0645\ufd92\u0645\u062c\u062e" ++
  "\ufd93\u0647\u0645\u062c\ufd94\u0647\u0645\u0645\ufd95\u0646\u062d\u0645\ufd96\u0646\u062d\u0649" ++
  "\ufd97\u0646\u062c\u0645\ufd98\u0646\u062c\u0645\ufd99\u0646\u062c\u0649\ufd9a\u0646\u0645\u064a" ++
  "\ufd9b\u0646\u0645\u0649\ufd9c\u064a\u0645\u0645\ufd9d\u064a\u0645\u0645\ufd9e\u0628\u062e\u064a" ++
  "\ufd9f\u062a\u062c\u064a\ufda0\u062a\u062c\u0649\ufda1\u062a\u062e\u064a\ufda2\u062a\u062e\u0649" ++
  "\ufda3\u062a\u0645\u064a\ufda4\u062a\u0645\u0649\ufda5\u062c\u0645\u064a\ufda6\u062c\u062d\u0649" ++
  "\ufda7\u062c\u0645\u0649\ufda8\u0633\u062e\u0649\ufda9\u0635\u062d\u064a\ufdaa\u0634\u062d\u064a" ++
  "\ufdab\u0636\u062d\u064a\ufdac\u0644\u062c\u064a\ufdad\u0644\u0645\u064a\ufdae\u064a\u062d\u064a" ++
  "\ufdaf\u064a\u062c\u064a\ufdb0\u064a\u0645\u064a\ufdb1\u0645\u0645\u064a\ufdb2\u0642\u0645\u064a" ++
  "\ufdb3\u0646\u062d\u064a\ufdb4\u0642\u0645\u062d\ufdb5\u0644\u062d\u0645\ufdb6\u0639\u0645\u064a" ++
  "\ufdb7\u0643\u0645\u064a\ufdb8\u0646\u062c\u062d\ufdb9\u0645\u062e\u064a\ufdba\u0644\u062c\u0645" ++
  "\ufdbb\u0643\u0645\u0645\ufdbc\u0644\u062c\u0645\ufdbd\u0646\u062c\u062d\ufdbe\u062c\u062d\u064a" ++
  "\ufdbf\u062d\u062c\u064a\ufdc0\u0645\u062c\u064a\ufdc1\u0641\u0645\u064a\ufdc2\u0628\u062d\u064a" ++
  "\ufdc3\u0643\u0645\u0645\ufdc4\u0639\u062c\u0645\ufdc5\u0635\u0645\u0645\ufdc6\u0633\u062e\u064a" ++
  "\ufdc7\u0646\u062c\u064a\ufdf0\u0635\u0644\u06d2\ufdf1\u0642\u0644\u06d2\ufdf9\u0635\u0644\u0649" ++
  "\ufef5\u0644\u0627\u0653\ufef6\u0644\u0627\u0653\ufef7\u0644\u0627\u0654\ufef8\u0644\u0627\u0654" ++
  "\ufef9\u0644\u0627\u0655\ufefa\u0644\u0627\u0655"

/-- Forms in which letters are shown that become four characters. -/
def presentationFour : String :=
  "\ufdf2\u0627\u0644\u0644\u0647\ufdf3\u0627\u0643\u0628\u0631\ufdf4\u0645\u062d\u0645\u062f" ++
  "\ufdf5\u0635\u0644\u0639\u0645\ufdf6\u0631\u0633\u0648\u0644\ufdf7\u0639\u0644\u064a\u0647" ++
  "\ufdf8\u0648\u0633\u0644\u0645\ufdfc\u0631\u06cc\u0627\u0644"

/-- Wide and narrow forms that become one character. -/
def wideOne : String :=
  "！!＂\"＃#＄$％%＆&＇'（(）)＊*＋+，,－-．.／/０0１1２2３3４4５5６6７7８8９9：:；;＜<＝=＞>？?＠@Ａa" ++
  "ＢbＣcＤdＥeＦfＧgＨhＩiＪjＫkＬlＭmＮnＯoＰpＱqＲrＳsＴtＵuＶvＷwＸxＹyＺz［[＼\\］]＾^＿_｀`ａaｂb" ++
  "ｃcｄdｅeｆfｇgｈhｉiｊjｋkｌlｍmｎnｏoｐpｑqｒrｓsｔtｕuｖvｗwｘxｙyｚz｛\x7b｜|｝\x7d～~｟⦅｠⦆｡。" ++
  "｢「｣」､、･・ｦヲｧァｨィｩゥｪェｫォｬャｭュｮョｯッｰーｱアｲイｳウｴエｵオｶカｷキｸクｹケｺコｻサｼシｽスｾセｿソﾀタﾁチﾂツ" ++
  "ﾃテﾄトﾅナﾆニﾇヌﾈネﾉノﾊハﾋヒﾌフﾍヘﾎホﾏマﾐミﾑムﾒメﾓモﾔヤﾕユﾖヨﾗラﾘリﾙルﾚレﾛロﾜワﾝンﾞ\u3099ﾟ\u309aﾠᅠﾡᄀ" ++
  "ﾢᄁﾣᆪﾤᄂﾥᆬﾦᆭﾧᄃﾨᄄﾩᄅﾪᆰﾫᆱﾬᆲﾭᆳﾮᆴﾯᆵﾰᄚﾱᄆﾲᄇﾳᄈﾴᄡﾵᄉﾶᄊﾷᄋﾸᄌﾹᄍﾺᄎﾻᄏﾼᄐﾽᄑﾾᄒￂᅡￃᅢￄᅣￅᅤￆᅥￇᅦￊᅧￋᅨￌᅩￍᅪￎᅫ" ++
  "ￏᅬￒᅭￓᅮￔᅯￕᅰￖᅱￗᅲￚᅳￛᅴￜᅵ￠¢￡£￢¬￤¦￥¥￦₩￨│￩←￪↑￫→￬↓￭■￮○"

/-- Wide and narrow forms that become two characters. -/
def wideTwo : String :=
  "￣ \u0304"

/-- Letters of mathematics, and letters of scripts past the first plane that become one character. -/
def mathematicalOne : String :=
  "𐐀𐐨𐐁𐐩𐐂𐐪𐐃𐐫𐐄𐐬𐐅𐐭𐐆𐐮𐐇𐐯𐐈𐐰𐐉𐐱𐐊𐐲𐐋𐐳𐐌𐐴𐐍𐐵𐐎𐐶𐐏𐐷𐐐𐐸𐐑𐐹𐐒𐐺𐐓𐐻𐐔𐐼𐐕𐐽𐐖𐐾𐐗𐐿𐐘𐑀𐐙𐑁𐐚𐑂𐐛𐑃𐐜𐑄𐐝𐑅𐐞𐑆𐐟𐑇𐐠𐑈𐐡𐑉𐐢𐑊𐐣𐑋𐐤𐑌𐐥𐑍𐐦𐑎𐐧𐑏𐒰𐓘𐒱𐓙𐒲𐓚𐒳𐓛𐒴𐓜𐒵𐓝𐒶𐓞𐒷𐓟𐒸𐓠𐒹𐓡" ++
  "𐒺𐓢𐒻𐓣𐒼𐓤𐒽𐓥𐒾𐓦𐒿𐓧𐓀𐓨𐓁𐓩𐓂𐓪𐓃𐓫𐓄𐓬𐓅𐓭𐓆𐓮𐓇𐓯𐓈𐓰𐓉𐓱𐓊𐓲𐓋𐓳𐓌𐓴𐓍𐓵𐓎𐓶𐓏𐓷𐓐𐓸𐓑𐓹𐓒𐓺𐓓𐓻𐕰𐖗𐕱𐖘𐕲𐖙𐕳𐖚𐕴𐖛𐕵𐖜𐕶𐖝𐕷𐖞𐕸𐖟𐕹𐖠𐕺𐖡𐕼𐖣𐕽𐖤𐕾𐖥𐕿𐖦𐖀𐖧𐖁𐖨𐖂𐖩𐖃𐖪𐖄𐖫𐖅𐖬𐖆𐖭𐖇𐖮𐖈𐖯" ++
  "𐖉𐖰𐖊𐖱𐖌𐖳𐖍𐖴𐖎𐖵𐖏𐖶𐖐𐖷𐖑𐖸𐖒𐖹𐖔𐖻𐖕𐖼𐲀𐳀𐲁𐳁𐲂𐳂𐲃𐳃𐲄𐳄𐲅𐳅𐲆𐳆𐲇𐳇𐲈𐳈𐲉𐳉𐲊𐳊𐲋𐳋𐲌𐳌𐲍𐳍𐲎𐳎𐲏𐳏𐲐𐳐𐲑𐳑𐲒𐳒𐲓𐳓𐲔𐳔𐲕𐳕𐲖𐳖𐲗𐳗𐲘𐳘𐲙𐳙𐲚𐳚𐲛𐳛𐲜𐳜𐲝𐳝𐲞𐳞𐲟𐳟𐲠𐳠𐲡𐳡𐲢𐳢𐲣𐳣𐲤𐳤𐲥𐳥𐲦𐳦" ++
  "𐲧𐳧𐲨𐳨𐲩𐳩𐲪𐳪𐲫𐳫𐲬𐳬𐲭𐳭𐲮𐳮𐲯𐳯𐲰𐳰𐲱𐳱𐲲𐳲𑢠𑣀𑢡𑣁𑢢𑣂𑢣𑣃𑢤𑣄𑢥𑣅𑢦𑣆𑢧𑣇𑢨𑣈𑢩𑣉𑢪𑣊𑢫𑣋𑢬𑣌𑢭𑣍𑢮𑣎𑢯𑣏𑢰𑣐𑢱𑣑𑢲𑣒𑢳𑣓𑢴𑣔𑢵𑣕𑢶𑣖𑢷𑣗𑢸𑣘𑢹𑣙𑢺𑣚𑢻𑣛𑢼𑣜𑢽𑣝𑢾𑣞𑢿𑣟𖹀𖹠𖹁𖹡𖹂𖹢𖹃𖹣𖹄𖹤𖹅𖹥" ++
  "𖹆𖹦𖹇𖹧𖹈𖹨𖹉𖹩𖹊𖹪𖹋𖹫𖹌𖹬𖹍𖹭𖹎𖹮𖹏𖹯𖹐𖹰𖹑𖹱𖹒𖹲𖹓𖹳𖹔𖹴𖹕𖹵𖹖𖹶𖹗𖹷𖹘𖹸𖹙𖹹𖹚𖹺𖹛𖹻𖹜𖹼𖹝𖹽𖹞𖹾𖹟𖹿𝐀a𝐁b𝐂c𝐃d𝐄e𝐅f𝐆g𝐇h𝐈i𝐉j𝐊k𝐋l𝐌m𝐍n𝐎o𝐏p𝐐q𝐑r𝐒s𝐓t𝐔u𝐕v𝐖w𝐗x" ++
  "𝐘y𝐙z𝐚a𝐛b𝐜c𝐝d𝐞e𝐟f𝐠g𝐡h𝐢i𝐣j𝐤k𝐥l𝐦m𝐧n𝐨o𝐩p𝐪q𝐫r𝐬s𝐭t𝐮u𝐯v𝐰w𝐱x𝐲y𝐳z𝐴a𝐵b𝐶c𝐷d𝐸e𝐹f𝐺g𝐻h𝐼i𝐽j𝐾k𝐿l𝑀m𝑁n𝑂o𝑃p𝑄q𝑅r𝑆s𝑇t𝑈u𝑉v" ++
  "𝑊w𝑋x𝑌y𝑍z𝑎a𝑏b𝑐c𝑑d𝑒e𝑓f𝑔g𝑖i𝑗j𝑘k𝑙l𝑚m𝑛n𝑜o𝑝p𝑞q𝑟r𝑠s𝑡t𝑢u𝑣v𝑤w𝑥x𝑦y𝑧z𝑨a𝑩b𝑪c𝑫d𝑬e𝑭f𝑮g𝑯h𝑰i𝑱j𝑲k𝑳l𝑴m𝑵n𝑶o𝑷p𝑸q𝑹r𝑺s𝑻t𝑼u" ++
  "𝑽v𝑾w𝑿x𝒀y𝒁z𝒂a𝒃b𝒄c𝒅d𝒆e𝒇f𝒈g𝒉h𝒊i𝒋j𝒌k𝒍l𝒎m𝒏n𝒐o𝒑p𝒒q𝒓r𝒔s𝒕t𝒖u𝒗v𝒘w𝒙x𝒚y𝒛z𝒜a𝒞c𝒟d𝒢g𝒥j𝒦k𝒩n𝒪o𝒫p𝒬q𝒮s𝒯t𝒰u𝒱v𝒲w𝒳x𝒴y𝒵z𝒶a" ++
  "𝒷b𝒸c𝒹d𝒻f𝒽h𝒾i𝒿j𝓀k𝓂m𝓃n𝓅p𝓆q𝓇r𝓈s𝓉t𝓊u𝓋v𝓌w𝓍x𝓎y𝓏z𝓐a𝓑b𝓒c𝓓d𝓔e𝓕f𝓖g𝓗h𝓘i𝓙j𝓚k𝓛l𝓜m𝓝n𝓞o𝓟p𝓠q𝓡r𝓢s𝓣t𝓤u𝓥v𝓦w𝓧x𝓨y𝓩z𝓪a𝓫b𝓬c" ++
  "𝓭d𝓮e𝓯f𝓰g𝓱h𝓲i𝓳j𝓴k𝓵l𝓶m𝓷n𝓸o𝓹p𝓺q𝓻r𝓼s𝓽t𝓾u𝓿v𝔀w𝔁x𝔂y𝔃z𝔄a𝔅b𝔇d𝔈e𝔉f𝔊g𝔍j𝔎k𝔏l𝔐m𝔑n𝔒o𝔓p𝔔q𝔖s𝔗t𝔘u𝔙v𝔚w𝔛x𝔜y𝔞a𝔟b𝔠c𝔡d𝔢e𝔣f" ++
  "𝔤g𝔥h𝔦i𝔧j𝔨k𝔩l𝔪m𝔫n𝔬o𝔭p𝔮q𝔯r𝔰s𝔱t𝔲u𝔳v𝔴w𝔵x𝔶y𝔷z𝔸a𝔹b𝔻d𝔼e𝔽f𝔾g𝕀i𝕁j𝕂k𝕃l𝕄m𝕆o𝕊s𝕋t𝕌u𝕍v𝕎w𝕏x𝕐y𝕒a𝕓b𝕔c𝕕d𝕖e𝕗f𝕘g𝕙h𝕚i𝕛j𝕜k" ++
  "𝕝l𝕞m𝕟n𝕠o𝕡p𝕢q𝕣r𝕤s𝕥t𝕦u𝕧v𝕨w𝕩x𝕪y𝕫z𝕬a𝕭b𝕮c𝕯d𝕰e𝕱f𝕲g𝕳h𝕴i𝕵j𝕶k𝕷l𝕸m𝕹n𝕺o𝕻p𝕼q𝕽r𝕾s𝕿t𝖀u𝖁v𝖂w𝖃x𝖄y𝖅z𝖆a𝖇b𝖈c𝖉d𝖊e𝖋f𝖌g𝖍h𝖎i" ++
  "𝖏j𝖐k𝖑l𝖒m𝖓n𝖔o𝖕p𝖖q𝖗r𝖘s𝖙t𝖚u𝖛v𝖜w𝖝x𝖞y𝖟z𝖠a𝖡b𝖢c𝖣d𝖤e𝖥f𝖦g𝖧h𝖨i𝖩j𝖪k𝖫l𝖬m𝖭n𝖮o𝖯p𝖰q𝖱r𝖲s𝖳t𝖴u𝖵v𝖶w𝖷x𝖸y𝖹z𝖺a𝖻b𝖼c𝖽d𝖾e𝖿f𝗀g" ++
  "𝗁h𝗂i𝗃j𝗄k𝗅l𝗆m𝗇n𝗈o𝗉p𝗊q𝗋r𝗌s𝗍t𝗎u𝗏v𝗐w𝗑x𝗒y𝗓z𝗔a𝗕b𝗖c𝗗d𝗘e𝗙f𝗚g𝗛h𝗜i𝗝j𝗞k𝗟l𝗠m𝗡n𝗢o𝗣p𝗤q𝗥r𝗦s𝗧t𝗨u𝗩v𝗪w𝗫x𝗬y𝗭z𝗮a𝗯b𝗰c𝗱d𝗲e" ++
  "𝗳f𝗴g𝗵h𝗶i𝗷j𝗸k𝗹l𝗺m𝗻n𝗼o𝗽p𝗾q𝗿r𝘀s𝘁t𝘂u𝘃v𝘄w𝘅x𝘆y𝘇z𝘈a𝘉b𝘊c𝘋d𝘌e𝘍f𝘎g𝘏h𝘐i𝘑j𝘒k𝘓l𝘔m𝘕n𝘖o𝘗p𝘘q𝘙r𝘚s𝘛t𝘜u𝘝v𝘞w𝘟x𝘠y𝘡z𝘢a𝘣b𝘤c" ++
  "𝘥d𝘦e𝘧f𝘨g𝘩h𝘪i𝘫j𝘬k𝘭l𝘮m𝘯n𝘰o𝘱p𝘲q𝘳r𝘴s𝘵t𝘶u𝘷v𝘸w𝘹x𝘺y𝘻z𝘼a𝘽b𝘾c𝘿d𝙀e𝙁f𝙂g𝙃h𝙄i𝙅j𝙆k𝙇l𝙈m𝙉n𝙊o𝙋p𝙌q𝙍r𝙎s𝙏t𝙐u𝙑v𝙒w𝙓x𝙔y𝙕z𝙖a" ++
  "𝙗b𝙘c𝙙d𝙚e𝙛f𝙜g𝙝h𝙞i𝙟j𝙠k𝙡l𝙢m𝙣n𝙤o𝙥p𝙦q𝙧r𝙨s𝙩t𝙪u𝙫v𝙬w𝙭x𝙮y𝙯z𝙰a𝙱b𝙲c𝙳d𝙴e𝙵f𝙶g𝙷h𝙸i𝙹j𝙺k𝙻l𝙼m𝙽n𝙾o𝙿p𝚀q𝚁r𝚂s𝚃t𝚄u𝚅v𝚆w𝚇x𝚈y" ++
  "𝚉z𝚊a𝚋b𝚌c𝚍d𝚎e𝚏f𝚐g𝚑h𝚒i𝚓j𝚔k𝚕l𝚖m𝚗n𝚘o𝚙p𝚚q𝚛r𝚜s𝚝t𝚞u𝚟v𝚠w𝚡x𝚢y𝚣z𝚨α𝚩β𝚪γ𝚫δ𝚬ε𝚭ζ𝚮η𝚯θ𝚰ι𝚱κ𝚲λ𝚳μ𝚴ν𝚵ξ𝚶ο𝚷π𝚸ρ𝚹θ𝚺σ𝚻τ𝚼υ𝚽φ𝚾χ" ++
  "𝚿ψ𝛀ω𝛁∇𝛂α𝛃β𝛄γ𝛅δ𝛆ε𝛇ζ𝛈η𝛉θ𝛊ι𝛋κ𝛌λ𝛍μ𝛎ν𝛏ξ𝛐ο𝛑π𝛒ρ𝛓σ𝛔σ𝛕τ𝛖υ𝛗φ𝛘χ𝛙ψ𝛚ω𝛛∂𝛜ε𝛝θ𝛞κ𝛟φ𝛠ρ𝛡π𝛢α𝛣β𝛤γ𝛥δ𝛦ε𝛧ζ𝛨η𝛩θ𝛪ι𝛫κ𝛬λ𝛭μ𝛮ν𝛯ξ𝛰ο" ++
  "𝛱π𝛲ρ𝛳θ𝛴σ𝛵τ𝛶υ𝛷φ𝛸χ𝛹ψ𝛺ω𝛻∇𝛼α𝛽β𝛾γ𝛿δ𝜀ε𝜁ζ𝜂η𝜃θ𝜄ι𝜅κ𝜆λ𝜇μ𝜈ν𝜉ξ𝜊ο𝜋π𝜌ρ𝜍σ𝜎σ𝜏τ𝜐υ𝜑φ𝜒χ𝜓ψ𝜔ω𝜕∂𝜖ε𝜗θ𝜘κ𝜙φ𝜚ρ𝜛π𝜜α𝜝β𝜞γ𝜟δ𝜠ε𝜡ζ𝜢η" ++
  "𝜣θ𝜤ι𝜥κ𝜦λ𝜧μ𝜨ν𝜩ξ𝜪ο𝜫π𝜬ρ𝜭θ𝜮σ𝜯τ𝜰υ𝜱φ𝜲χ𝜳ψ𝜴ω𝜵∇𝜶α𝜷β𝜸γ𝜹δ𝜺ε𝜻ζ𝜼η𝜽θ𝜾ι𝜿κ𝝀λ𝝁μ𝝂ν𝝃ξ𝝄ο𝝅π𝝆ρ𝝇σ𝝈σ𝝉τ𝝊υ𝝋φ𝝌χ𝝍ψ𝝎ω𝝏∂𝝐ε𝝑θ𝝒κ𝝓φ𝝔ρ" ++
  "𝝕π𝝖α𝝗β𝝘γ𝝙δ𝝚ε𝝛ζ𝝜η𝝝θ𝝞ι𝝟κ𝝠λ𝝡μ𝝢ν𝝣ξ𝝤ο𝝥π𝝦ρ𝝧θ𝝨σ𝝩τ𝝪υ𝝫φ𝝬χ𝝭ψ𝝮ω𝝯∇𝝰α𝝱β𝝲γ𝝳δ𝝴ε𝝵ζ𝝶η𝝷θ𝝸ι𝝹κ𝝺λ𝝻μ𝝼ν𝝽ξ𝝾ο𝝿π𝞀ρ𝞁σ𝞂σ𝞃τ𝞄υ𝞅φ𝞆χ" ++
  "𝞇ψ𝞈ω𝞉∂𝞊ε𝞋θ𝞌κ𝞍φ𝞎ρ𝞏π𝞐α𝞑β𝞒γ𝞓δ𝞔ε𝞕ζ𝞖η𝞗θ𝞘ι𝞙κ𝞚λ𝞛μ𝞜ν𝞝ξ𝞞ο𝞟π𝞠ρ𝞡θ𝞢σ𝞣τ𝞤υ𝞥φ𝞦χ𝞧ψ𝞨ω𝞩∇𝞪α𝞫β𝞬γ𝞭δ𝞮ε𝞯ζ𝞰η𝞱θ𝞲ι𝞳κ𝞴λ𝞵μ𝞶ν𝞷ξ𝞸ο" ++
  "𝞹π𝞺ρ𝞻σ𝞼σ𝞽τ𝞾υ𝞿φ𝟀χ𝟁ψ𝟂ω𝟃∂𝟄ε𝟅θ𝟆κ𝟇φ𝟈ρ𝟉π𝟎0𝟏1𝟐2𝟑3𝟒4𝟓5𝟔6𝟕7𝟖8𝟗9𝟘0𝟙1𝟚2𝟛3𝟜4𝟝5𝟞6𝟟7𝟠8𝟡9𝟢0𝟣1𝟤2𝟥3𝟦4𝟧5𝟨6𝟩7𝟪8𝟫9𝟬0𝟭1𝟮2" ++
  "𝟯3𝟰4𝟱5𝟲6𝟳7𝟴8𝟵9𝟶0𝟷1𝟸2𝟹3𝟺4𝟻5𝟼6𝟽7𝟾8𝟿9"

/-- Letters of mathematics, and letters of scripts past the first plane that become two characters. -/
def mathematicalTwo : String :=
  "𝅗𝅥𝅗𝅥𝅘𝅥𝅘𝅥𝆹𝅥𝆹𝅥𝆺𝅥𝆺𝅥"

/-- Letters of mathematics, and letters of scripts past the first plane that become three characters. -/
def mathematicalThree : String :=
  "𝅘𝅥𝅮𝅘𝅥𝅮𝅘𝅥𝅯𝅘𝅥𝅯𝅘𝅥𝅰𝅘𝅥𝅰𝅘𝅥𝅱𝅘𝅥𝅱𝅘𝅥𝅲𝅘𝅥𝅲𝆹𝅥𝅮𝆹𝅥𝅮𝆺𝅥𝅮𝆺𝅥𝅮𝆹𝅥𝅯𝆹𝅥𝅯𝆺𝅥𝅯𝆺𝅥𝅯"

/-- Further ideographs that become one character. -/
def supplementOne : String :=
  "𞤀𞤢𞤁𞤣𞤂𞤤𞤃𞤥𞤄𞤦𞤅𞤧𞤆𞤨𞤇𞤩𞤈𞤪𞤉𞤫𞤊𞤬𞤋𞤭𞤌𞤮𞤍𞤯𞤎𞤰𞤏𞤱𞤐𞤲𞤑𞤳𞤒𞤴𞤓𞤵𞤔𞤶𞤕𞤷𞤖𞤸𞤗𞤹𞤘𞤺𞤙𞤻𞤚𞤼𞤛𞤽𞤜𞤾𞤝𞤿𞤞𞥀𞤟𞥁𞤠𞥂𞤡𞥃丽丽丸丸乁乁𠄢𠄢你你侮侮侻侻倂倂" ++
  "偺偺備備僧僧像像㒞㒞𠘺𠘺免免兔兔兤兤具具𠔜𠔜㒹㒹內內再再𠕋𠕋冗冗冤冤仌仌冬冬况况𩇟𩇟凵凵刃刃㓟㓟刻刻" ++
  "剆剆割割剷剷㔕㔕勇勇勉勉勤勤勺勺包包匆匆北北卉卉卑卑博博即即卽卽卿卿卿卿卿卿𠨬𠨬灰灰及及叟叟𠭣𠭣叫叫" ++
  "叱叱吆吆咞咞吸吸呈呈周周咢咢哶哶唐唐啓啓啣啣善善善善喙喙喫喫喳喳嗂嗂圖圖嘆嘆圗圗噑噑噴噴切切壮壮城城" ++
  "埴埴堍堍型型堲堲報報墬墬𡓤𡓤売売壷壷夆夆多多夢夢奢奢𡚨𡚨𡛪𡛪姬姬娛娛娧娧姘姘婦婦㛮㛮㛼𡍪嬈嬈嬾嬾嬾嬾" ++
  "𡧈𡧈寃寃寘寘寧寧寳寳𡬘𡬘寿寿将将当弳尢尢㞁㞁屠屠屮屮峀峀岍岍𡷤𡷤嵃嵃𡷦𡷦嵮嵮嵫嵫嵼嵼巡巡巢巢㠯㠯巽巽" ++
  "帨帨帽帽幩幩㡢㡢𢆃𢆃㡼㡼庰庰庳庳庶庶廊廊𪎒𪎒廾廾𢌱𢌱𢌱𢌱舁舁弢弢弢弢㣇㣇𣊸𣊸𦇚𦇚形形彫彫㣣㣣徚徚忍忍" ++
  "志志忹忹悁悁㤺㤺㤜㤜悔悔𢛔𢛔惇惇慈慈慌慌慎慎慌慌慺慺憎憎憲憲憤憤憯憯懞懞懲懲懶懶成成戛戛扝扝抱抱拔拔" ++
  "捐捐𢬌𢬌挽挽拼拼捨捨掃掃揤揤𢯱𢯱搢搢揅揅掩掩㨮㨮摩摩摾摾撝撝摷摷㩬㩬敏敏敬敬𣀊𣀊旣旣書書晉晉㬙㬙暑暑" ++
  "㬈㬈㫤㫤冒冒冕冕最最暜暜肭肭䏙䏙朗朗望望朡朡杞杞杓杓𣏃𣏃㭉㭉柺柺枅枅桒桒梅梅𣑭𣑭梎梎栟栟椔椔㮝㮝楂楂" ++
  "榣榣槪槪檨檨𣚣𣚣櫛櫛㰘㰘次次𣢧𣢧歔歔㱎㱎歲歲殟殟殺殺殻殻𣪍𣪍𡴋𡴋𣫺𣫺汎汎𣲼𣲼沿沿泍泍汧汧洖洖派派海海" ++
  "流流浩浩浸浸涅涅𣴞𣴞洴洴港港湮湮㴳㴳滋滋滇滇𣻑𣻑淹淹潮潮𣽞𣽞𣾎𣾎濆濆瀹瀹瀞瀞瀛瀛㶖㶖灊灊災災灷灷炭炭" ++
  "𠔥𠔥煅煅𤉣𤉣熜熜𤎫䎫爨爨爵爵牐牐𤘈𤘈犀犀犕犕𤜵𤜵𤠔𤠔獺獺王王㺬㺬玥玥㺸㺸㺸㺸瑇瑇瑜瑜瑱瑱璅璅瓊瓊㼛㼛" ++
  "甤甤𤰶𤰶甾甾𤲒𤲒異異𢆟𢆟瘐瘐𤾡𤾡𤾸𤾸𥁄𥁄㿼㿼䀈䀈直直𥃳𥃳𥃲𥃲𥄙𥄙𥄳𥄳眞眞真真真真睊睊䀹䀹瞋瞋䁆䁆䂖䂖" ++
  "𥐝𥐝硎硎碌碌磌磌䃣䃣𥘦𥘦祖祖𥚚𥚚𥛅𥛅福福秫秫䄯䄯穀穀穊穊穏穏𥥼𥥼𥪧𥪧𥪧𥪧竮窮䈂䈂𥮫𥮫篆篆築築䈧䈧𥲀𥲀" ++
  "糒糒䊠䊠糨糨糣糣紀紀𥾆𥾆絣絣䌁䌁緇緇縂縂繅繅䌴䌴𦈨𦈨𦉇𦉇䍙䍙𦋙𦋙罺罺𦌾𦌾羕羕翺翺者者𦓚𦓚𦔣𦔣聠聠𦖨𦖨" ++
  "聰聰𣍟𣍟䏕䏕育育脃脃䐋䐋脾脾媵媵𦞧𦞧𦞵𦞵𣎓𣎓𣎜𣎜舁舁舄舄辞辞䑫䑫芑芑芋芋芝芝劳劳花花芳芳芽芽苦苦𦬼𦬼" ++
  "若若茝茝荣荣莭莭茣茣莽莽菧菧著著荓荓菊菊菌菌菜菜𦰶𦰶𦵫𦵫𦳕𦳕䔫䔫蓱蓱蓳蓳蔖蔖𧏊𧏊蕤蕤𦼬𦼬䕝䕝䕡䕡𦾱𦾱" ++
  "𧃒𧃒䕫䕫虐虐虜虜虧虧虩虩蚩蚩蚈蚈蜎蜎蛢蛢蝹蝹蜨蜨蝫蝫螆螆䗗䵗蟡蟡蠁蠁䗹䗹衠衠衣衣𧙧𧙧裗裗裞裞䘵䘵裺裺" ++
  "㒻㒻𧢮𧢮𧥦𧥦䚾䚾䛇䛇誠誠諭諭變變豕豕𧲨𧲨貫貫賁賁贛贛起起𧼯𧼯𠠄𠠄跋跋趼趼跰跰𠣞𠣞軔軔輸輸𨗒𨗒𨗭𨗭邔邔" ++
  "郱郱鄑鄑𨜮𨜮鄛鄛鈸鈸鋗鋗鋘鋘鉼鉼鏹鏹鐕鐕𨯺𨯺開開䦕䦕閷閷𨵷𨵷䧦䧦雃雃嶲嶲霣霣𩅅𩅅𩈚𩈚䩮䩮䩶䩶韠韠𩐊𩐊" ++
  "䪲䪲𩒖𩒖頋頋頋頋頩頩𩖶𩖶飢飢䬳䬳餩餩馧馧駂駂駾駾䯎䯎𩬰𩬰鬒鬒鱀鱀鳽鳽䳎䳎䳭䳭鵧鵧𪃎𪃎䳸䳸𪄅𪄅𪈎𪈎𪊑𪊑" ++
  "麻麻䵖䵖黹黹黾黾鼅鼅鼏鼏鼖鼖鼻鼻𪘀𪘀"

/-- Those that become more, an entry a line. -/
def longer : String :=
  "㌀アハ\u309aート\n㌂アンヘ\u309aア\n㌄イニンク\u3099\n㌗キロワット\n㌠サンチーム\n㌡シリンク\u3099\n" ++
  "㌭ハ\u3099ーレル\n㌶ヘクタール\n㌻ヘ\u309aーシ\u3099\n㌽ホ\u309aイント\n㍀ホ\u309aント\u3099\n" ++
  "㍇マンション\n㍌メカ\u3099トン\n㍔ルーフ\u3099ル\n㎮rad∕s\n㌇エスクート\u3099\n" ++
  "㌓キ\u3099ルタ\u3099ー\n㌕キロク\u3099ラム\n㌖キロメートル\n㌙ク\u3099ラムトン\n㌚クルセ\u3099イロ\n" ++
  "㌫ハ\u309aーセント\n㌮ヒ\u309aアストル\n㌲ファラット\u3099\n㌴フ\u3099ッシェル\n㍊ミリハ\u3099ール\n" ++
  "㍖レントケ\u3099ン\n㎯rad∕s2\n\ufdfb\u062c\u0644 \u062c\u0644\u0627\u0644\u0647\n" ++
  "\ufdfa\u0635\u0644\u0649 \u0627\u0644\u0644\u0647 \u0639\u0644\u064a\u0647 \u0648\u0633\u0644\u0645\n"

/-- Characters that are left out. -/
def dropped : List (Nat × Nat) := [
  (0xad, 0xad), (0x34f, 0x34f), (0x1806, 0x1806), (0x180b, 0x180d), (0x200b, 0x200d), (0x2060, 0x2060),
  (0xfe00, 0xfe0f), (0xfeff, 0xfeff)]

/-- The entries of a text, each of a character and `n` more. -/
def entries (n : Nat) : Nat → Text → List (Char × Text)
  | 0, _ => []
  | fuel + 1, c :: r => (c, r.take n) :: entries n fuel (r.drop n)
  | _, [] => []

def table (n : Nat) (s : String) : List (Char × Text) := entries n s.length (.lit s)

/-- The entry of a line. -/
def lineEntry : Text → Option (Char × Text)
  | c :: r => some (c, r)
  | [] => none

def ones : List String := [
  latinOne, greekOne, extendedOne, symbolOne, eastAsianOne, ideographOne, presentationOne, wideOne,
  mathematicalOne, supplementOne]

def twos : List String := [
  latinTwo, greekTwo, extendedTwo, symbolTwo, eastAsianTwo, presentationTwo, wideTwo, mathematicalTwo]

def threes : List String := [
  latinThree, greekThree, extendedThree, symbolThree, eastAsianThree, presentationThree,
  mathematicalThree]

def fours : List String := [
  extendedFour, symbolFour, eastAsianFour, presentationFour]

/-- All characters that become others. -/
def all : List (Char × Text) :=
  ones.flatMap (table 1) ++ twos.flatMap (table 2) ++ threes.flatMap (table 3) ++ fours.flatMap (table 4) ++
    ((Text.lit longer).splitOn '\n').filterMap lineEntry

def isDropped (n : Code) : Bool := dropped.any fun r => r.1 ≤ n && n ≤ r.2

/-- What a character becomes. -/
def find (n : Code) : List Code :=
  if isDropped n then []
  else
    match all.find? fun e => e.1.toNat == n with
    | some e => e.2.map Char.toNat
    | none => [n]

end SocksTunnel.Nameprep.Mapping
