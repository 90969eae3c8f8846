import ByteAsm.Encoding.PrefixCode

/-!
# Big5 and its extensions

Big5 writes traditional Chinese in two bytes, the first from `A1` on. Code page 950 adds a few
rows of Microsoft, and Big5-HKSCS the supplementary characters of Hong Kong, some of which stand
for a letter with a combining mark.
-/

namespace ByteAsm

namespace PrefixCode

/-- Big5. -/
def big5 : PrefixCode where
  name := "big5"
  rows := [
    ⟨[], 0x00, "\x00\x01\x02\x03\x04\x05\x06\x07\x08\x09\x0a\x0b\x0c\x0d\x0e\x0f\x10\x11\x12\x13\x14\x15\x16\x17\x18\x19\x1a\x1b\x1c\x1d\x1e\x1f" ++
      " !\"#$%&\x27()*+,-./0123456789:;<=>?" ++
      "@ABCDEFGHIJKLMNOPQRSTUVWXYZ[\\]^_" ++
      "\x60abcdefghijklmnopqrstuvwxyz\x7b|\x7d~\x7f" ++
      "\uFDD2\uFDD2\uFDD2\uFDD2\uFDD2\uFDD2\uFDD2\uFDD2\uFDD2\uFDD2\uFDD2\uFDD2\uFDD2\uFDD2\uFDD2\uFDD2\uFDD2\uFDD2\uFDD2\uFDD2\uFDD2\uFDD2\uFDD2\uFDD2\uFDD2\uFDD2\uFDD2\uFDD2\uFDD2\uFDD2\uFDD2\uFDD2" ++
      "\uFDD2\uFDD2\uFDD2\uFDD2\uFDD2\uFDD2\uFDD2\uFDD2\uFDD2\uFDD2\uFDD2\uFDD2\uFDD2\uFDD2\uFDD2\uFDD2\uFDD2\uFDD2\uFDD2\uFDD2\uFDD2\uFDD2\uFDD2\uFDD2\uFDD2\uFDD2\uFDD2\uFDD2\uFDD2\uFDD2\uFDD2\uFDD2" ++
      "\uFDD2\uFDD2\uFDD2\uFDD2\uFDD2\uFDD2\uFDD2\uFDD2\uFDD2\uFDD2\uFDD2\uFDD2\uFDD2\uFDD2\uFDD2\uFDD2\uFDD2\uFDD2\uFDD2\uFDD2\uFDD2\uFDD2\uFDD2\uFDD2\uFDD2\uFDD2\uFDD2\uFDD2\uFDD2\uFDD2\uFDD2\uFDD2" ++
      "\uFDD2\uFDD2\uFDD2\uFDD2\uFDD2\uFDD2\uFDD2\uFDD2\uFDD2\uFDD2\uFDD2\uFDD2\uFDD2\uFDD2\uFDD2\uFDD2\uFDD2\uFDD2\uFDD2\uFDD2\uFDD2\uFDD2\uFDD2\uFDD2\uFDD2\uFDD2\uFDD2\uFDD2\uFDD2\uFDD2\uFDD2\uFDD2"⟩,
    ⟨[0xA1], 0x40, "\u3000，、。．•；：？！︰…‥﹐､﹒·﹔﹕﹖﹗｜–︱—︳╴︴﹏（）︵" ++
      "︶｛｝︷︸〔〕︹︺【】︻︼《》︽︾〈〉︿﹀「」﹁﹂『』﹃﹄﹙﹚\uFDD0" ++
      "\uFDD0\uFDD0\uFDD0\uFDD0\uFDD0\uFDD0\uFDD0\uFDD0\uFDD0\uFDD0\uFDD0\uFDD0\uFDD0\uFDD0\uFDD0\uFDD0\uFDD0\uFDD0\uFDD0\uFDD0\uFDD0\uFDD0\uFDD0\uFDD0\uFDD0\uFDD0\uFDD0\uFDD0\uFDD0\uFDD0\uFDD0\uFDD0" ++
      "\uFDD0﹛﹜﹝﹞‘’“”〝〞‵′＃＆＊※§〃○●△▲◎☆★◇◆□■▽▼" ++
      "㊣℅‾￣＿ˍ﹉﹊﹍﹎﹋﹌﹟﹠﹡＋－×÷±√＜＞＝≦≧≠∞≒≡﹢﹣" ++
      "﹤﹥﹦∼∩∪⊥∠∟⊿㏒㏑∫∮∵∴♀♂♁☉↑↓←→↖↗↙↘∥∣／"⟩,
    ⟨[0xA2], 0x40, "＼／＼＄¥〒¢£％＠℃℉﹩﹪﹫㏕㎜㎝㎞㏎㎡㎎㎏㏄°兙兛兞兝兡兣嗧" ++
      "瓩糎▁▂▃▄▅▆▇█▏▎▍▌▋▊▉┼┴┬┤├▔─│▕┌┐└┘╭\uFDD0" ++
      "\uFDD0\uFDD0\uFDD0\uFDD0\uFDD0\uFDD0\uFDD0\uFDD0\uFDD0\uFDD0\uFDD0\uFDD0\uFDD0\uFDD0\uFDD0\uFDD0\uFDD0\uFDD0\uFDD0\uFDD0\uFDD0\uFDD0\uFDD0\uFDD0\uFDD0\uFDD0\uFDD0\uFDD0\uFDD0\uFDD0\uFDD0\uFDD0" ++
      "\uFDD0╮╰╯═╞╪╡◢◣◥◤╱╲╳０１２３４５６７８９ⅠⅡⅢⅣⅤⅥⅦ" ++
      "ⅧⅨⅩ〡〢〣〤〥〦〧〨〩十卄卅ＡＢＣＤＥＦＧＨＩＪＫＬＭＮＯＰＱ" ++
      "ＲＳＴＵＶＷＸＹＺａｂｃｄｅｆｇｈｉｊｋｌｍｎｏｐｑｒｓｔｕｖ"⟩,
    ⟨[0xA3], 0x40, "ｗｘｙｚΑΒΓΔΕΖΗΘΙΚΛΜΝΞΟΠΡΣΤΥΦΧΨΩαβγδ" ++
      "εζηθικλμνξοπρστυφχψωㄅㄆㄇㄈㄉㄊㄋㄌㄍㄎㄏ\uFDD0" ++
      "\uFDD0\uFDD0\uFDD0\uFDD0\uFDD0\uFDD0\uFDD0\uFDD0\uFDD0\uFDD0\uFDD0\uFDD0\uFDD0\uFDD0\uFDD0\uFDD0\uFDD0\uFDD0\uFDD0\uFDD0\uFDD0\uFDD0\uFDD0\uFDD0\uFDD0\uFDD0\uFDD0\uFDD0\uFDD0\uFDD0\uFDD0\uFDD0" ++
      "\uFDD0ㄐㄑㄒㄓㄔㄕㄖㄗㄘㄙㄚㄛㄜㄝㄞㄟㄠㄡㄢㄣㄤㄥㄦㄧㄨㄩ˙ˉˊˇˋ"⟩,
    ⟨[0xA4], 0x40, "一乙丁七乃九了二人儿入八几刀刁力匕十卜又三下丈上丫丸凡久么也乞于" ++
      "亡兀刃勺千叉口土士夕大女子孑孓寸小尢尸山川工己已巳巾干廾弋弓才\uFDD0" ++
      "\uFDD0\uFDD0\uFDD0\uFDD0\uFDD0\uFDD0\uFDD0\uFDD0\uFDD0\uFDD0\uFDD0\uFDD0\uFDD0\uFDD0\uFDD0\uFDD0\uFDD0\uFDD0\uFDD0\uFDD0\uFDD0\uFDD0\uFDD0\uFDD0\uFDD0\uFDD0\uFDD0\uFDD0\uFDD0\uFDD0\uFDD0\uFDD0" ++
      "\uFDD0丑丐不中丰丹之尹予云井互五亢仁什仃仆仇仍今介仄元允內六兮公冗凶" ++
      "分切刈勻勾勿化匹午升卅卞厄友及反壬天夫太夭孔少尤尺屯巴幻廿弔引心" ++
      "戈戶手扎支文斗斤方日曰月木欠止歹毋比毛氏水火爪父爻片牙牛犬王丙"⟩,
    ⟨[0xA5], 0x40, "世丕且丘主乍乏乎以付仔仕他仗代令仙仞充兄冉冊冬凹出凸刊加功包匆北" ++
      "匝仟半卉卡占卯卮去可古右召叮叩叨叼司叵叫另只史叱台句叭叻四囚外\uFDD0" ++
      "\uFDD0\uFDD0\uFDD0\uFDD0\uFDD0\uFDD0\uFDD0\uFDD0\uFDD0\uFDD0\uFDD0\uFDD0\uFDD0\uFDD0\uFDD0\uFDD0\uFDD0\uFDD0\uFDD0\uFDD0\uFDD0\uFDD0\uFDD0\uFDD0\uFDD0\uFDD0\uFDD0\uFDD0\uFDD0\uFDD0\uFDD0\uFDD0" ++
      "\uFDD0央失奴奶孕它尼巨巧左市布平幼弁弘弗必戊打扔扒扑斥旦朮本未末札正" ++
      "母民氐永汁汀氾犯玄玉瓜瓦甘生用甩田由甲申疋白皮皿目矛矢石示禾穴立" ++
      "丞丟乒乓乩亙交亦亥仿伉伙伊伕伍伐休伏仲件任仰仳份企伋光兇兆先全"⟩,
    ⟨[0xA6], 0x40, "共再冰列刑划刎刖劣匈匡匠印危吉吏同吊吐吁吋各向名合吃后吆吒因回囝" ++
      "圳地在圭圬圯圩夙多夷夸妄奸妃好她如妁字存宇守宅安寺尖屹州帆并年\uFDD0" ++
      "\uFDD0\uFDD0\uFDD0\uFDD0\uFDD0\uFDD0\uFDD0\uFDD0\uFDD0\uFDD0\uFDD0\uFDD0\uFDD0\uFDD0\uFDD0\uFDD0\uFDD0\uFDD0\uFDD0\uFDD0\uFDD0\uFDD0\uFDD0\uFDD0\uFDD0\uFDD0\uFDD0\uFDD0\uFDD0\uFDD0\uFDD0\uFDD0" ++
      "\uFDD0式弛忙忖戎戌戍成扣扛托收早旨旬旭曲曳有朽朴朱朵次此死氖汝汗汙江" ++
      "池汐汕污汛汍汎灰牟牝百竹米糸缶羊羽老考而耒耳聿肉肋肌臣自至臼舌舛" ++
      "舟艮色艾虫血行衣西阡串亨位住佇佗佞伴佛何估佐佑伽伺伸佃佔似但佣"⟩,
    ⟨[0xA7], 0x40, "作你伯低伶余佝佈佚兌克免兵冶冷別判利刪刨劫助努劬匣即卵吝吭吞吾否" ++
      "呎吧呆呃吳呈呂君吩告吹吻吸吮吵吶吠吼呀吱含吟听囪困囤囫坊坑址坍\uFDD0" ++
      "\uFDD0\uFDD0\uFDD0\uFDD0\uFDD0\uFDD0\uFDD0\uFDD0\uFDD0\uFDD0\uFDD0\uFDD0\uFDD0\uFDD0\uFDD0\uFDD0\uFDD0\uFDD0\uFDD0\uFDD0\uFDD0\uFDD0\uFDD0\uFDD0\uFDD0\uFDD0\uFDD0\uFDD0\uFDD0\uFDD0\uFDD0\uFDD0" ++
      "\uFDD0均坎圾坐坏圻壯夾妝妒妨妞妣妙妖妍妤妓妊妥孝孜孚孛完宋宏尬局屁尿" ++
      "尾岐岑岔岌巫希序庇床廷弄弟彤形彷役忘忌志忍忱快忸忪戒我抄抗抖技扶" ++
      "抉扭把扼找批扳抒扯折扮投抓抑抆改攻攸旱更束李杏材村杜杖杞杉杆杠"⟩,
    ⟨[0xA8], 0x40, "杓杗步每求汞沙沁沈沉沅沛汪決沐汰沌汨沖沒汽沃汲汾汴沆汶沍沔沘沂灶" ++
      "灼災灸牢牡牠狄狂玖甬甫男甸皂盯矣私秀禿究系罕肖肓肝肘肛肚育良芒\uFDD0" ++
      "\uFDD0\uFDD0\uFDD0\uFDD0\uFDD0\uFDD0\uFDD0\uFDD0\uFDD0\uFDD0\uFDD0\uFDD0\uFDD0\uFDD0\uFDD0\uFDD0\uFDD0\uFDD0\uFDD0\uFDD0\uFDD0\uFDD0\uFDD0\uFDD0\uFDD0\uFDD0\uFDD0\uFDD0\uFDD0\uFDD0\uFDD0\uFDD0" ++
      "\uFDD0芋芍見角言谷豆豕貝赤走足身車辛辰迂迆迅迄巡邑邢邪邦那酉釆里防阮" ++
      "阱阪阬並乖乳事些亞享京佯依侍佳使佬供例來侃佰併侈佩佻侖佾侏侑佺兔" ++
      "兒兕兩具其典冽函刻券刷刺到刮制剁劾劻卒協卓卑卦卷卸卹取叔受味呵"⟩,
    ⟨[0xA9], 0x40, "咖呸咕咀呻呷咄咒咆呼咐呱呶和咚呢周咋命咎固垃坷坪坩坡坦坤坼夜奉奇" ++
      "奈奄奔妾妻委妹妮姑姆姐姍始姓姊妯妳姒姅孟孤季宗定官宜宙宛尚屈居\uFDD0" ++
      "\uFDD0\uFDD0\uFDD0\uFDD0\uFDD0\uFDD0\uFDD0\uFDD0\uFDD0\uFDD0\uFDD0\uFDD0\uFDD0\uFDD0\uFDD0\uFDD0\uFDD0\uFDD0\uFDD0\uFDD0\uFDD0\uFDD0\uFDD0\uFDD0\uFDD0\uFDD0\uFDD0\uFDD0\uFDD0\uFDD0\uFDD0\uFDD0" ++
      "\uFDD0屆岷岡岸岩岫岱岳帘帚帖帕帛帑幸庚店府底庖延弦弧弩往征彿彼忝忠忽" ++
      "念忿怏怔怯怵怖怪怕怡性怩怫怛或戕房戾所承拉拌拄抿拂抹拒招披拓拔拋" ++
      "拈抨抽押拐拙拇拍抵拚抱拘拖拗拆抬拎放斧於旺昔易昌昆昂明昀昏昕昊"⟩,
    ⟨[0xAA], 0x40, "昇服朋杭枋枕東果杳杷枇枝林杯杰板枉松析杵枚枓杼杪杲欣武歧歿氓氛泣" ++
      "注泳沱泌泥河沽沾沼波沫法泓沸泄油況沮泗泅泱沿治泡泛泊沬泯泜泖泠\uFDD0" ++
      "\uFDD0\uFDD0\uFDD0\uFDD0\uFDD0\uFDD0\uFDD0\uFDD0\uFDD0\uFDD0\uFDD0\uFDD0\uFDD0\uFDD0\uFDD0\uFDD0\uFDD0\uFDD0\uFDD0\uFDD0\uFDD0\uFDD0\uFDD0\uFDD0\uFDD0\uFDD0\uFDD0\uFDD0\uFDD0\uFDD0\uFDD0\uFDD0" ++
      "\uFDD0炕炎炒炊炙爬爭爸版牧物狀狎狙狗狐玩玨玟玫玥甽疝疙疚的盂盲直知矽" ++
      "社祀祁秉秈空穹竺糾罔羌羋者肺肥肢肱股肫肩肴肪肯臥臾舍芳芝芙芭芽芟" ++
      "芹花芬芥芯芸芣芰芾芷虎虱初表軋迎返近邵邸邱邶采金長門阜陀阿阻附"⟩,
    ⟨[0xAB], 0x40, "陂隹雨青非亟亭亮信侵侯便俠俑俏保促侶俘俟俊俗侮俐俄係俚俎俞侷兗冒" ++
      "冑冠剎剃削前剌剋則勇勉勃勁匍南卻厚叛咬哀咨哎哉咸咦咳哇哂咽咪品\uFDD0" ++
      "\uFDD0\uFDD0\uFDD0\uFDD0\uFDD0\uFDD0\uFDD0\uFDD0\uFDD0\uFDD0\uFDD0\uFDD0\uFDD0\uFDD0\uFDD0\uFDD0\uFDD0\uFDD0\uFDD0\uFDD0\uFDD0\uFDD0\uFDD0\uFDD0\uFDD0\uFDD0\uFDD0\uFDD0\uFDD0\uFDD0\uFDD0\uFDD0" ++
      "\uFDD0哄哈咯咫咱咻咩咧咿囿垂型垠垣垢城垮垓奕契奏奎奐姜姘姿姣姨娃姥姪" ++
      "姚姦威姻孩宣宦室客宥封屎屏屍屋峙峒巷帝帥帟幽庠度建弈弭彥很待徊律" ++
      "徇後徉怒思怠急怎怨恍恰恨恢恆恃恬恫恪恤扁拜挖按拼拭持拮拽指拱拷"⟩,
    ⟨[0xAC], 0x40, "拯括拾拴挑挂政故斫施既春昭映昧是星昨昱昤曷柿染柱柔某柬架枯柵柩柯" ++
      "柄柑枴柚查枸柏柞柳枰柙柢柝柒歪殃殆段毒毗氟泉洋洲洪流津洌洱洞洗\uFDD0" ++
      "\uFDD0\uFDD0\uFDD0\uFDD0\uFDD0\uFDD0\uFDD0\uFDD0\uFDD0\uFDD0\uFDD0\uFDD0\uFDD0\uFDD0\uFDD0\uFDD0\uFDD0\uFDD0\uFDD0\uFDD0\uFDD0\uFDD0\uFDD0\uFDD0\uFDD0\uFDD0\uFDD0\uFDD0\uFDD0\uFDD0\uFDD0\uFDD0" ++
      "\uFDD0活洽派洶洛泵洹洧洸洩洮洵洎洫炫為炳炬炯炭炸炮炤爰牲牯牴狩狠狡玷" ++
      "珊玻玲珍珀玳甚甭畏界畎畋疫疤疥疢疣癸皆皇皈盈盆盃盅省盹相眉看盾盼" ++
      "眇矜砂研砌砍祆祉祈祇禹禺科秒秋穿突竿竽籽紂紅紀紉紇約紆缸美羿耄"⟩,
    ⟨[0xAD], 0x40, "耐耍耑耶胖胥胚胃胄背胡胛胎胞胤胝致舢苧范茅苣苛苦茄若茂茉苒苗英茁" ++
      "苜苔苑苞苓苟苯茆虐虹虻虺衍衫要觔計訂訃貞負赴赳趴軍軌述迦迢迪迥\uFDD0" ++
      "\uFDD0\uFDD0\uFDD0\uFDD0\uFDD0\uFDD0\uFDD0\uFDD0\uFDD0\uFDD0\uFDD0\uFDD0\uFDD0\uFDD0\uFDD0\uFDD0\uFDD0\uFDD0\uFDD0\uFDD0\uFDD0\uFDD0\uFDD0\uFDD0\uFDD0\uFDD0\uFDD0\uFDD0\uFDD0\uFDD0\uFDD0\uFDD0" ++
      "\uFDD0迭迫迤迨郊郎郁郃酋酊重閂限陋陌降面革韋韭音頁風飛食首香乘亳倌倍" ++
      "倣俯倦倥俸倩倖倆值借倚倒們俺倀倔倨俱倡個候倘俳修倭倪俾倫倉兼冤冥" ++
      "冢凍凌准凋剖剜剔剛剝匪卿原厝叟哨唐唁唷哼哥哲唆哺唔哩哭員唉哮哪"⟩,
    ⟨[0xAE], 0x40, "哦唧唇哽唏圃圄埂埔埋埃堉夏套奘奚娑娘娜娟娛娓姬娠娣娩娥娌娉孫屘宰" ++
      "害家宴宮宵容宸射屑展屐峭峽峻峪峨峰島崁峴差席師庫庭座弱徒徑徐恙\uFDD0" ++
      "\uFDD0\uFDD0\uFDD0\uFDD0\uFDD0\uFDD0\uFDD0\uFDD0\uFDD0\uFDD0\uFDD0\uFDD0\uFDD0\uFDD0\uFDD0\uFDD0\uFDD0\uFDD0\uFDD0\uFDD0\uFDD0\uFDD0\uFDD0\uFDD0\uFDD0\uFDD0\uFDD0\uFDD0\uFDD0\uFDD0\uFDD0\uFDD0" ++
      "\uFDD0恣恥恐恕恭恩息悄悟悚悍悔悌悅悖扇拳挈拿捎挾振捕捂捆捏捉挺捐挽挪" ++
      "挫挨捍捌效敉料旁旅時晉晏晃晒晌晅晁書朔朕朗校核案框桓根桂桔栩梳栗" ++
      "桌桑栽柴桐桀格桃株桅栓栘桁殊殉殷氣氧氨氦氤泰浪涕消涇浦浸海浙涓"⟩,
    ⟨[0xAF], 0x40, "浬涉浮浚浴浩涌涊浹涅浥涔烊烘烤烙烈烏爹特狼狹狽狸狷玆班琉珮珠珪珞" ++
      "畔畝畜畚留疾病症疲疳疽疼疹痂疸皋皰益盍盎眩真眠眨矩砰砧砸砝破砷\uFDD0" ++
      "\uFDD0\uFDD0\uFDD0\uFDD0\uFDD0\uFDD0\uFDD0\uFDD0\uFDD0\uFDD0\uFDD0\uFDD0\uFDD0\uFDD0\uFDD0\uFDD0\uFDD0\uFDD0\uFDD0\uFDD0\uFDD0\uFDD0\uFDD0\uFDD0\uFDD0\uFDD0\uFDD0\uFDD0\uFDD0\uFDD0\uFDD0\uFDD0" ++
      "\uFDD0砥砭砠砟砲祕祐祠祟祖神祝祗祚秤秣秧租秦秩秘窄窈站笆笑粉紡紗紋紊" ++
      "素索純紐紕級紜納紙紛缺罟羔翅翁耆耘耕耙耗耽耿胱脂胰脅胭胴脆胸胳脈" ++
      "能脊胼胯臭臬舀舐航舫舨般芻茫荒荔荊茸荐草茵茴荏茲茹茶茗荀茱茨荃"⟩,
    ⟨[0xB0], 0x40, "虔蚊蚪蚓蚤蚩蚌蚣蚜衰衷袁袂衽衹記訐討訌訕訊託訓訖訏訑豈豺豹財貢起" ++
      "躬軒軔軏辱送逆迷退迺迴逃追逅迸邕郡郝郢酒配酌釘針釗釜釙閃院陣陡\uFDD0" ++
      "\uFDD0\uFDD0\uFDD0\uFDD0\uFDD0\uFDD0\uFDD0\uFDD0\uFDD0\uFDD0\uFDD0\uFDD0\uFDD0\uFDD0\uFDD0\uFDD0\uFDD0\uFDD0\uFDD0\uFDD0\uFDD0\uFDD0\uFDD0\uFDD0\uFDD0\uFDD0\uFDD0\uFDD0\uFDD0\uFDD0\uFDD0\uFDD0" ++
      "\uFDD0陛陝除陘陞隻飢馬骨高鬥鬲鬼乾偺偽停假偃偌做偉健偶偎偕偵側偷偏倏" ++
      "偯偭兜冕凰剪副勒務勘動匐匏匙匿區匾參曼商啪啦啄啞啡啃啊唱啖問啕唯" ++
      "啤唸售啜唬啣唳啁啗圈國圉域堅堊堆埠埤基堂堵執培夠奢娶婁婉婦婪婀"⟩,
    ⟨[0xB1], 0x40, "娼婢婚婆婊孰寇寅寄寂宿密尉專將屠屜屝崇崆崎崛崖崢崑崩崔崙崤崧崗巢" ++
      "常帶帳帷康庸庶庵庾張強彗彬彩彫得徙從徘御徠徜恿患悉悠您惋悴惦悽\uFDD0" ++
      "\uFDD0\uFDD0\uFDD0\uFDD0\uFDD0\uFDD0\uFDD0\uFDD0\uFDD0\uFDD0\uFDD0\uFDD0\uFDD0\uFDD0\uFDD0\uFDD0\uFDD0\uFDD0\uFDD0\uFDD0\uFDD0\uFDD0\uFDD0\uFDD0\uFDD0\uFDD0\uFDD0\uFDD0\uFDD0\uFDD0\uFDD0\uFDD0" ++
      "\uFDD0情悻悵惜悼惘惕惆惟悸惚惇戚戛扈掠控捲掖探接捷捧掘措捱掩掉掃掛捫" ++
      "推掄授掙採掬排掏掀捻捩捨捺敝敖救教敗啟敏敘敕敔斜斛斬族旋旌旎晝晚" ++
      "晤晨晦晞曹勗望梁梯梢梓梵桿桶梱梧梗械梃棄梭梆梅梔條梨梟梡梂欲殺"⟩,
    ⟨[0xB2], 0x40, "毫毬氫涎涼淳淙液淡淌淤添淺清淇淋涯淑涮淞淹涸混淵淅淒渚涵淚淫淘淪" ++
      "深淮淨淆淄涪淬涿淦烹焉焊烽烯爽牽犁猜猛猖猓猙率琅琊球理現琍瓠瓶\uFDD0" ++
      "\uFDD0\uFDD0\uFDD0\uFDD0\uFDD0\uFDD0\uFDD0\uFDD0\uFDD0\uFDD0\uFDD0\uFDD0\uFDD0\uFDD0\uFDD0\uFDD0\uFDD0\uFDD0\uFDD0\uFDD0\uFDD0\uFDD0\uFDD0\uFDD0\uFDD0\uFDD0\uFDD0\uFDD0\uFDD0\uFDD0\uFDD0\uFDD0" ++
      "\uFDD0瓷甜產略畦畢異疏痔痕疵痊痍皎盔盒盛眷眾眼眶眸眺硫硃硎祥票祭移窒" ++
      "窕笠笨笛第符笙笞笮粒粗粕絆絃統紮紹紼絀細紳組累終紲紱缽羞羚翌翎習" ++
      "耜聊聆脯脖脣脫脩脰脤舂舵舷舶船莎莞莘荸莢莖莽莫莒莊莓莉莠荷荻荼"⟩,
    ⟨[0xB3], 0x40, "莆莧處彪蛇蛀蚶蛄蚵蛆蛋蚱蚯蛉術袞袈被袒袖袍袋覓規訪訝訣訥許設訟訛" ++
      "訢豉豚販責貫貨貪貧赧赦趾趺軛軟這逍通逗連速逝逐逕逞造透逢逖逛途\uFDD0" ++
      "\uFDD0\uFDD0\uFDD0\uFDD0\uFDD0\uFDD0\uFDD0\uFDD0\uFDD0\uFDD0\uFDD0\uFDD0\uFDD0\uFDD0\uFDD0\uFDD0\uFDD0\uFDD0\uFDD0\uFDD0\uFDD0\uFDD0\uFDD0\uFDD0\uFDD0\uFDD0\uFDD0\uFDD0\uFDD0\uFDD0\uFDD0\uFDD0" ++
      "\uFDD0部郭都酗野釵釦釣釧釭釩閉陪陵陳陸陰陴陶陷陬雀雪雩章竟頂頃魚鳥鹵" ++
      "鹿麥麻傢傍傅備傑傀傖傘傚最凱割剴創剩勞勝勛博厥啻喀喧啼喊喝喘喂喜" ++
      "喪喔喇喋喃喳單喟唾喲喚喻喬喱啾喉喫喙圍堯堪場堤堰報堡堝堠壹壺奠"⟩,
    ⟨[0xB4], 0x40, "婷媚婿媒媛媧孳孱寒富寓寐尊尋就嵌嵐崴嵇巽幅帽幀幃幾廊廁廂廄弼彭復" ++
      "循徨惑惡悲悶惠愜愣惺愕惰惻惴慨惱愎惶愉愀愒戟扉掣掌描揀揩揉揆揍\uFDD0" ++
      "\uFDD0\uFDD0\uFDD0\uFDD0\uFDD0\uFDD0\uFDD0\uFDD0\uFDD0\uFDD0\uFDD0\uFDD0\uFDD0\uFDD0\uFDD0\uFDD0\uFDD0\uFDD0\uFDD0\uFDD0\uFDD0\uFDD0\uFDD0\uFDD0\uFDD0\uFDD0\uFDD0\uFDD0\uFDD0\uFDD0\uFDD0\uFDD0" ++
      "\uFDD0插揣提握揖揭揮捶援揪換摒揚揹敞敦敢散斑斐斯普晰晴晶景暑智晾晷曾" ++
      "替期朝棺棕棠棘棗椅棟棵森棧棹棒棲棣棋棍植椒椎棉棚楮棻款欺欽殘殖殼" ++
      "毯氮氯氬港游湔渡渲湧湊渠渥渣減湛湘渤湖湮渭渦湯渴湍渺測湃渝渾滋"⟩,
    ⟨[0xB5], 0x40, "溉渙湎湣湄湲湩湟焙焚焦焰無然煮焜牌犄犀猶猥猴猩琺琪琳琢琥琵琶琴琯" ++
      "琛琦琨甥甦畫番痢痛痣痙痘痞痠登發皖皓皴盜睏短硝硬硯稍稈程稅稀窘\uFDD0" ++
      "\uFDD0\uFDD0\uFDD0\uFDD0\uFDD0\uFDD0\uFDD0\uFDD0\uFDD0\uFDD0\uFDD0\uFDD0\uFDD0\uFDD0\uFDD0\uFDD0\uFDD0\uFDD0\uFDD0\uFDD0\uFDD0\uFDD0\uFDD0\uFDD0\uFDD0\uFDD0\uFDD0\uFDD0\uFDD0\uFDD0\uFDD0\uFDD0" ++
      "\uFDD0窗窖童竣等策筆筐筒答筍筋筏筑粟粥絞結絨絕紫絮絲絡給絢絰絳善翔翕" ++
      "耋聒肅腕腔腋腑腎脹腆脾腌腓腴舒舜菩萃菸萍菠菅萋菁華菱菴著萊菰萌菌" ++
      "菽菲菊萸萎萄菜萇菔菟虛蛟蛙蛭蛔蛛蛤蛐蛞街裁裂袱覃視註詠評詞証詁"⟩,
    ⟨[0xB6], 0x40, "詔詛詐詆訴診訶詖象貂貯貼貳貽賁費賀貴買貶貿貸越超趁跎距跋跚跑跌跛" ++
      "跆軻軸軼辜逮逵週逸進逶鄂郵鄉郾酣酥量鈔鈕鈣鈉鈞鈍鈐鈇鈑閔閏開閑\uFDD0" ++
      "\uFDD0\uFDD0\uFDD0\uFDD0\uFDD0\uFDD0\uFDD0\uFDD0\uFDD0\uFDD0\uFDD0\uFDD0\uFDD0\uFDD0\uFDD0\uFDD0\uFDD0\uFDD0\uFDD0\uFDD0\uFDD0\uFDD0\uFDD0\uFDD0\uFDD0\uFDD0\uFDD0\uFDD0\uFDD0\uFDD0\uFDD0\uFDD0" ++
      "\uFDD0間閒閎隊階隋陽隅隆隍陲隄雁雅雄集雇雯雲韌項順須飧飪飯飩飲飭馮馭" ++
      "黃黍黑亂傭債傲傳僅傾催傷傻傯僇剿剷剽募勦勤勢勣匯嗟嗨嗓嗦嗎嗜嗇嗑" ++
      "嗣嗤嗯嗚嗡嗅嗆嗥嗉園圓塞塑塘塗塚塔填塌塭塊塢塒塋奧嫁嫉嫌媾媽媼"⟩,
    ⟨[0xB7], 0x40, "媳嫂媲嵩嵯幌幹廉廈弒彙徬微愚意慈感想愛惹愁愈慎慌慄慍愾愴愧愍愆愷" ++
      "戡戢搓搾搞搪搭搽搬搏搜搔損搶搖搗搆敬斟新暗暉暇暈暖暄暘暍會榔業\uFDD0" ++
      "\uFDD0\uFDD0\uFDD0\uFDD0\uFDD0\uFDD0\uFDD0\uFDD0\uFDD0\uFDD0\uFDD0\uFDD0\uFDD0\uFDD0\uFDD0\uFDD0\uFDD0\uFDD0\uFDD0\uFDD0\uFDD0\uFDD0\uFDD0\uFDD0\uFDD0\uFDD0\uFDD0\uFDD0\uFDD0\uFDD0\uFDD0\uFDD0" ++
      "\uFDD0楚楷楠楔極椰概楊楨楫楞楓楹榆楝楣楛歇歲毀殿毓毽溢溯滓溶滂源溝滇" ++
      "滅溥溘溼溺溫滑準溜滄滔溪溧溴煎煙煩煤煉照煜煬煦煌煥煞煆煨煖爺牒猷" ++
      "獅猿猾瑯瑚瑕瑟瑞瑁琿瑙瑛瑜當畸瘀痰瘁痲痱痺痿痴痳盞盟睛睫睦睞督"⟩,
    ⟨[0xB8], 0x40, "睹睪睬睜睥睨睢矮碎碰碗碘碌碉硼碑碓硿祺祿禁萬禽稜稚稠稔稟稞窟窠筷" ++
      "節筠筮筧粱粳粵經絹綑綁綏絛置罩罪署義羨群聖聘肆肄腱腰腸腥腮腳腫\uFDD0" ++
      "\uFDD0\uFDD0\uFDD0\uFDD0\uFDD0\uFDD0\uFDD0\uFDD0\uFDD0\uFDD0\uFDD0\uFDD0\uFDD0\uFDD0\uFDD0\uFDD0\uFDD0\uFDD0\uFDD0\uFDD0\uFDD0\uFDD0\uFDD0\uFDD0\uFDD0\uFDD0\uFDD0\uFDD0\uFDD0\uFDD0\uFDD0\uFDD0" ++
      "\uFDD0腹腺腦舅艇蒂葷落萱葵葦葫葉葬葛萼萵葡董葩葭葆虞虜號蛹蜓蜈蜇蜀蛾" ++
      "蛻蜂蜃蜆蜊衙裟裔裙補裘裝裡裊裕裒覜解詫該詳試詩詰誇詼詣誠話誅詭詢" ++
      "詮詬詹詻訾詨豢貊貉賊資賈賄貲賃賂賅跡跟跨路跳跺跪跤跦躲較載軾輊"⟩,
    ⟨[0xB9], 0x40, "辟農運遊道遂達逼違遐遇遏過遍遑逾遁鄒鄗酬酪酩釉鈷鉗鈸鈽鉀鈾鉛鉋鉤" ++
      "鉑鈴鉉鉍鉅鈹鈿鉚閘隘隔隕雍雋雉雊雷電雹零靖靴靶預頑頓頊頒頌飼飴\uFDD0" ++
      "\uFDD0\uFDD0\uFDD0\uFDD0\uFDD0\uFDD0\uFDD0\uFDD0\uFDD0\uFDD0\uFDD0\uFDD0\uFDD0\uFDD0\uFDD0\uFDD0\uFDD0\uFDD0\uFDD0\uFDD0\uFDD0\uFDD0\uFDD0\uFDD0\uFDD0\uFDD0\uFDD0\uFDD0\uFDD0\uFDD0\uFDD0\uFDD0" ++
      "\uFDD0飽飾馳馱馴髡鳩麂鼎鼓鼠僧僮僥僖僭僚僕像僑僱僎僩兢凳劃劂匱厭嗾嘀" ++
      "嘛嘗嗽嘔嘆嘉嘍嘎嗷嘖嘟嘈嘐嗶團圖塵塾境墓墊塹墅塽壽夥夢夤奪奩嫡嫦" ++
      "嫩嫗嫖嫘嫣孵寞寧寡寥實寨寢寤察對屢嶄嶇幛幣幕幗幔廓廖弊彆彰徹慇"⟩,
    ⟨[0xBA], 0x40, "愿態慷慢慣慟慚慘慵截撇摘摔撤摸摟摺摑摧搴摭摻敲斡旗旖暢暨暝榜榨榕" ++
      "槁榮槓構榛榷榻榫榴槐槍榭槌榦槃榣歉歌氳漳演滾漓滴漩漾漠漬漏漂漢\uFDD0" ++
      "\uFDD0\uFDD0\uFDD0\uFDD0\uFDD0\uFDD0\uFDD0\uFDD0\uFDD0\uFDD0\uFDD0\uFDD0\uFDD0\uFDD0\uFDD0\uFDD0\uFDD0\uFDD0\uFDD0\uFDD0\uFDD0\uFDD0\uFDD0\uFDD0\uFDD0\uFDD0\uFDD0\uFDD0\uFDD0\uFDD0\uFDD0\uFDD0" ++
      "\uFDD0滿滯漆漱漸漲漣漕漫漯澈漪滬漁滲滌滷熔熙煽熊熄熒爾犒犖獄獐瑤瑣瑪" ++
      "瑰瑭甄疑瘧瘍瘋瘉瘓盡監瞄睽睿睡磁碟碧碳碩碣禎福禍種稱窪窩竭端管箕" ++
      "箋筵算箝箔箏箸箇箄粹粽精綻綰綜綽綾綠緊綴網綱綺綢綿綵綸維緒緇綬"⟩,
    ⟨[0xBB], 0x40, "罰翠翡翟聞聚肇腐膀膏膈膊腿膂臧臺與舔舞艋蓉蒿蓆蓄蒙蒞蒲蒜蓋蒸蓀蓓" ++
      "蒐蒼蓑蓊蜿蜜蜻蜢蜥蜴蜘蝕蜷蜩裳褂裴裹裸製裨褚裯誦誌語誣認誡誓誤\uFDD0" ++
      "\uFDD0\uFDD0\uFDD0\uFDD0\uFDD0\uFDD0\uFDD0\uFDD0\uFDD0\uFDD0\uFDD0\uFDD0\uFDD0\uFDD0\uFDD0\uFDD0\uFDD0\uFDD0\uFDD0\uFDD0\uFDD0\uFDD0\uFDD0\uFDD0\uFDD0\uFDD0\uFDD0\uFDD0\uFDD0\uFDD0\uFDD0\uFDD0" ++
      "\uFDD0說誥誨誘誑誚誧豪貍貌賓賑賒赫趙趕跼輔輒輕輓辣遠遘遜遣遙遞遢遝遛" ++
      "鄙鄘鄞酵酸酷酴鉸銀銅銘銖鉻銓銜銨鉼銑閡閨閩閣閥閤隙障際雌雒需靼鞅" ++
      "韶頗領颯颱餃餅餌餉駁骯骰髦魁魂鳴鳶鳳麼鼻齊億儀僻僵價儂儈儉儅凜"⟩,
    ⟨[0xBC], 0x40, "劇劈劉劍劊勰厲嘮嘻嘹嘲嘿嘴嘩噓噎噗噴嘶嘯嘰墀墟增墳墜墮墩墦奭嬉嫻" ++
      "嬋嫵嬌嬈寮寬審寫層履嶝嶔幢幟幡廢廚廟廝廣廠彈影德徵慶慧慮慝慕憂\uFDD0" ++
      "\uFDD0\uFDD0\uFDD0\uFDD0\uFDD0\uFDD0\uFDD0\uFDD0\uFDD0\uFDD0\uFDD0\uFDD0\uFDD0\uFDD0\uFDD0\uFDD0\uFDD0\uFDD0\uFDD0\uFDD0\uFDD0\uFDD0\uFDD0\uFDD0\uFDD0\uFDD0\uFDD0\uFDD0\uFDD0\uFDD0\uFDD0\uFDD0" ++
      "\uFDD0慼慰慫慾憧憐憫憎憬憚憤憔憮戮摩摯摹撞撲撈撐撰撥撓撕撩撒撮播撫撚" ++
      "撬撙撢撳敵敷數暮暫暴暱樣樟槨樁樞標槽模樓樊槳樂樅槭樑歐歎殤毅毆漿" ++
      "潼澄潑潦潔澆潭潛潸潮澎潺潰潤澗潘滕潯潠潟熟熬熱熨牖犛獎獗瑩璋璃"⟩,
    ⟨[0xBD], 0x40, "瑾璀畿瘠瘩瘟瘤瘦瘡瘢皚皺盤瞎瞇瞌瞑瞋磋磅確磊碾磕碼磐稿稼穀稽稷稻" ++
      "窯窮箭箱範箴篆篇篁箠篌糊締練緯緻緘緬緝編緣線緞緩綞緙緲緹罵罷羯\uFDD0" ++
      "\uFDD0\uFDD0\uFDD0\uFDD0\uFDD0\uFDD0\uFDD0\uFDD0\uFDD0\uFDD0\uFDD0\uFDD0\uFDD0\uFDD0\uFDD0\uFDD0\uFDD0\uFDD0\uFDD0\uFDD0\uFDD0\uFDD0\uFDD0\uFDD0\uFDD0\uFDD0\uFDD0\uFDD0\uFDD0\uFDD0\uFDD0\uFDD0" ++
      "\uFDD0翩耦膛膜膝膠膚膘蔗蔽蔚蓮蔬蔭蔓蔑蔣蔡蔔蓬蔥蓿蔆螂蝴蝶蝠蝦蝸蝨蝙" ++
      "蝗蝌蝓衛衝褐複褒褓褕褊誼諒談諄誕請諸課諉諂調誰論諍誶誹諛豌豎豬賠" ++
      "賞賦賤賬賭賢賣賜質賡赭趟趣踫踐踝踢踏踩踟踡踞躺輝輛輟輩輦輪輜輞"⟩,
    ⟨[0xBE], 0x40, "輥適遮遨遭遷鄰鄭鄧鄱醇醉醋醃鋅銻銷鋪銬鋤鋁銳銼鋒鋇鋰銲閭閱霄霆震" ++
      "霉靠鞍鞋鞏頡頫頜颳養餓餒餘駝駐駟駛駑駕駒駙骷髮髯鬧魅魄魷魯鴆鴉\uFDD0" ++
      "\uFDD0\uFDD0\uFDD0\uFDD0\uFDD0\uFDD0\uFDD0\uFDD0\uFDD0\uFDD0\uFDD0\uFDD0\uFDD0\uFDD0\uFDD0\uFDD0\uFDD0\uFDD0\uFDD0\uFDD0\uFDD0\uFDD0\uFDD0\uFDD0\uFDD0\uFDD0\uFDD0\uFDD0\uFDD0\uFDD0\uFDD0\uFDD0" ++
      "\uFDD0鴃麩麾黎墨齒儒儘儔儐儕冀冪凝劑劓勳噙噫噹噩噤噸噪器噥噱噯噬噢噶" ++
      "壁墾壇壅奮嬝嬴學寰導彊憲憑憩憊懍憶憾懊懈戰擅擁擋撻撼據擄擇擂操撿" ++
      "擒擔撾整曆曉暹曄曇暸樽樸樺橙橫橘樹橄橢橡橋橇樵機橈歙歷氅濂澱澡"⟩,
    ⟨[0xBF], 0x40, "濃澤濁澧澳激澹澶澦澠澴熾燉燐燒燈燕熹燎燙燜燃燄獨璜璣璘璟璞瓢甌甍" ++
      "瘴瘸瘺盧盥瞠瞞瞟瞥磨磚磬磧禦積穎穆穌穋窺篙簑築篤篛篡篩篦糕糖縊\uFDD0" ++
      "\uFDD0\uFDD0\uFDD0\uFDD0\uFDD0\uFDD0\uFDD0\uFDD0\uFDD0\uFDD0\uFDD0\uFDD0\uFDD0\uFDD0\uFDD0\uFDD0\uFDD0\uFDD0\uFDD0\uFDD0\uFDD0\uFDD0\uFDD0\uFDD0\uFDD0\uFDD0\uFDD0\uFDD0\uFDD0\uFDD0\uFDD0\uFDD0" ++
      "\uFDD0縑縈縛縣縞縝縉縐罹羲翰翱翮耨膳膩膨臻興艘艙蕊蕙蕈蕨蕩蕃蕉蕭蕪蕞" ++
      "螃螟螞螢融衡褪褲褥褫褡親覦諦諺諫諱謀諜諧諮諾謁謂諷諭諳諶諼豫豭貓" ++
      "賴蹄踱踴蹂踹踵輻輯輸輳辨辦遵遴選遲遼遺鄴醒錠錶鋸錳錯錢鋼錫錄錚"⟩,
    ⟨[0xC0], 0x40, "錐錦錡錕錮錙閻隧隨險雕霎霑霖霍霓霏靛靜靦鞘頰頸頻頷頭頹頤餐館餞餛" ++
      "餡餚駭駢駱骸骼髻髭鬨鮑鴕鴣鴦鴨鴒鴛默黔龍龜優償儡儲勵嚎嚀嚐嚅嚇\uFDD0" ++
      "\uFDD0\uFDD0\uFDD0\uFDD0\uFDD0\uFDD0\uFDD0\uFDD0\uFDD0\uFDD0\uFDD0\uFDD0\uFDD0\uFDD0\uFDD0\uFDD0\uFDD0\uFDD0\uFDD0\uFDD0\uFDD0\uFDD0\uFDD0\uFDD0\uFDD0\uFDD0\uFDD0\uFDD0\uFDD0\uFDD0\uFDD0\uFDD0" ++
      "\uFDD0嚏壕壓壑壎嬰嬪嬤孺尷屨嶼嶺嶽嶸幫彌徽應懂懇懦懋戲戴擎擊擘擠擰擦" ++
      "擬擱擢擭斂斃曙曖檀檔檄檢檜櫛檣橾檗檐檠歜殮毚氈濘濱濟濠濛濤濫濯澀" ++
      "濬濡濩濕濮濰燧營燮燦燥燭燬燴燠爵牆獰獲璩環璦璨癆療癌盪瞳瞪瞰瞬"⟩,
    ⟨[0xC1], 0x40, "瞧瞭矯磷磺磴磯礁禧禪穗窿簇簍篾篷簌篠糠糜糞糢糟糙糝縮績繆縷縲繃縫" ++
      "總縱繅繁縴縹繈縵縿縯罄翳翼聱聲聰聯聳臆臃膺臂臀膿膽臉膾臨舉艱薪\uFDD0" ++
      "\uFDD0\uFDD0\uFDD0\uFDD0\uFDD0\uFDD0\uFDD0\uFDD0\uFDD0\uFDD0\uFDD0\uFDD0\uFDD0\uFDD0\uFDD0\uFDD0\uFDD0\uFDD0\uFDD0\uFDD0\uFDD0\uFDD0\uFDD0\uFDD0\uFDD0\uFDD0\uFDD0\uFDD0\uFDD0\uFDD0\uFDD0\uFDD0" ++
      "\uFDD0薄蕾薜薑薔薯薛薇薨薊虧蟀蟑螳蟒蟆螫螻螺蟈蟋褻褶襄褸褽覬謎謗謙講" ++
      "謊謠謝謄謐豁谿豳賺賽購賸賻趨蹉蹋蹈蹊轄輾轂轅輿避遽還邁邂邀鄹醣醞" ++
      "醜鍍鎂錨鍵鍊鍥鍋錘鍾鍬鍛鍰鍚鍔闊闋闌闈闆隱隸雖霜霞鞠韓顆颶餵騁"⟩,
    ⟨[0xC2], 0x40, "駿鮮鮫鮪鮭鴻鴿麋黏點黜黝黛鼾齋叢嚕嚮壙壘嬸彝懣戳擴擲擾攆擺擻擷斷" ++
      "曜朦檳檬櫃檻檸櫂檮檯歟歸殯瀉瀋濾瀆濺瀑瀏燻燼燾燸獷獵璧璿甕癖癘\uFDD0" ++
      "\uFDD0\uFDD0\uFDD0\uFDD0\uFDD0\uFDD0\uFDD0\uFDD0\uFDD0\uFDD0\uFDD0\uFDD0\uFDD0\uFDD0\uFDD0\uFDD0\uFDD0\uFDD0\uFDD0\uFDD0\uFDD0\uFDD0\uFDD0\uFDD0\uFDD0\uFDD0\uFDD0\uFDD0\uFDD0\uFDD0\uFDD0\uFDD0" ++
      "\uFDD0癒瞽瞿瞻瞼礎禮穡穢穠竄竅簫簧簪簞簣簡糧織繕繞繚繡繒繙罈翹翻職聶" ++
      "臍臏舊藏薩藍藐藉薰薺薹薦蟯蟬蟲蟠覆覲觴謨謹謬謫豐贅蹙蹣蹦蹤蹟蹕軀" ++
      "轉轍邇邃邈醫醬釐鎔鎊鎖鎢鎳鎮鎬鎰鎘鎚鎗闔闖闐闕離雜雙雛雞霤鞣鞦"⟩,
    ⟨[0xC3], 0x40, "鞭韹額顏題顎顓颺餾餿餽餮馥騎髁鬃鬆魏魎魍鯊鯉鯽鯈鯀鵑鵝鵠黠鼕鼬儳" ++
      "嚥壞壟壢寵龐廬懲懷懶懵攀攏曠曝櫥櫝櫚櫓瀛瀟瀨瀚瀝瀕瀘爆爍牘犢獸\uFDD0" ++
      "\uFDD0\uFDD0\uFDD0\uFDD0\uFDD0\uFDD0\uFDD0\uFDD0\uFDD0\uFDD0\uFDD0\uFDD0\uFDD0\uFDD0\uFDD0\uFDD0\uFDD0\uFDD0\uFDD0\uFDD0\uFDD0\uFDD0\uFDD0\uFDD0\uFDD0\uFDD0\uFDD0\uFDD0\uFDD0\uFDD0\uFDD0\uFDD0" ++
      "\uFDD0獺璽瓊瓣疇疆癟癡矇礙禱穫穩簾簿簸簽簷籀繫繭繹繩繪羅繳羶羹羸臘藩" ++
      "藝藪藕藤藥藷蟻蠅蠍蟹蟾襠襟襖襞譁譜識證譚譎譏譆譙贈贊蹼蹲躇蹶蹬蹺" ++
      "蹴轔轎辭邊邋醱醮鏡鏑鏟鏃鏈鏜鏝鏖鏢鏍鏘鏤鏗鏨關隴難霪霧靡韜韻類"⟩,
    ⟨[0xC4], 0x40, "願顛颼饅饉騖騙鬍鯨鯧鯖鯛鶉鵡鵲鵪鵬麒麗麓麴勸嚨嚷嚶嚴嚼壤孀孃孽寶" ++
      "巉懸懺攘攔攙曦朧櫬瀾瀰瀲爐獻瓏癢癥礦礪礬礫竇競籌籃籍糯糰辮繽繼\uFDD0" ++
      "\uFDD0\uFDD0\uFDD0\uFDD0\uFDD0\uFDD0\uFDD0\uFDD0\uFDD0\uFDD0\uFDD0\uFDD0\uFDD0\uFDD0\uFDD0\uFDD0\uFDD0\uFDD0\uFDD0\uFDD0\uFDD0\uFDD0\uFDD0\uFDD0\uFDD0\uFDD0\uFDD0\uFDD0\uFDD0\uFDD0\uFDD0\uFDD0" ++
      "\uFDD0纂罌耀臚艦藻藹蘑藺蘆蘋蘇蘊蠔蠕襤覺觸議譬警譯譟譫贏贍躉躁躅躂醴" ++
      "釋鐘鐃鏽闡霰飄饒饑馨騫騰騷騵鰓鰍鹹麵黨鼯齟齣齡儷儸囁囀囂夔屬巍懼" ++
      "懾攝攜斕曩櫻欄櫺殲灌爛犧瓖瓔癩矓籐纏續羼蘗蘭蘚蠣蠢蠡蠟襪襬覽譴"⟩,
    ⟨[0xC5], 0x40, "護譽贓躊躍躋轟辯醺鐮鐳鐵鐺鐸鐲鐫闢霸霹露響顧顥饗驅驃驀騾髏魔魑鰭" ++
      "鰥鶯鶴鷂鶸麝黯鼙齜齦齧儼儻囈囊囉孿巔巒彎懿攤權歡灑灘玀瓤疊癮癬\uFDD0" ++
      "\uFDD0\uFDD0\uFDD0\uFDD0\uFDD0\uFDD0\uFDD0\uFDD0\uFDD0\uFDD0\uFDD0\uFDD0\uFDD0\uFDD0\uFDD0\uFDD0\uFDD0\uFDD0\uFDD0\uFDD0\uFDD0\uFDD0\uFDD0\uFDD0\uFDD0\uFDD0\uFDD0\uFDD0\uFDD0\uFDD0\uFDD0\uFDD0" ++
      "\uFDD0禳籠籟聾聽臟襲襯觼讀贖贗躑躓轡酈鑄鑑鑒霽霾韃韁顫饕驕驍髒鬚鱉鰱" ++
      "鰾鰻鷓鷗鼴齬齪龔囌巖戀攣攫攪曬欐瓚竊籤籣籥纓纖纔臢蘸蘿蠱變邐邏鑣" ++
      "鑠鑤靨顯饜驚驛驗髓體髑鱔鱗鱖鷥麟黴囑壩攬灞癱癲矗罐羈蠶蠹衢讓讒"⟩,
    ⟨[0xC6], 0x40, "讖艷贛釀鑪靂靈靄韆顰驟鬢魘鱟鷹鷺鹼鹽鼇齷齲廳欖灣籬籮蠻觀躡釁鑲鑰" ++
      "顱饞髖鬣黌灤矚讚鑷韉驢驥纜讜躪釅鑽鑾鑼鱷鱸黷豔鑿鸚爨驪鬱鸛鸞籲\uFDD0" ++
      "\uFDD0\uFDD0\uFDD0\uFDD0\uFDD0\uFDD0\uFDD0\uFDD0\uFDD0\uFDD0\uFDD0\uFDD0\uFDD0\uFDD0\uFDD0\uFDD0\uFDD0\uFDD0\uFDD0\uFDD0\uFDD0\uFDD0\uFDD0\uFDD0\uFDD0\uFDD0\uFDD0\uFDD0\uFDD0\uFDD0\uFDD0\uFDD0" ++
      "\uFDD0ヾゝゞ々ぁあぃいぅうぇえぉおかがきぎくぐけげこごさざしじすずせ" ++
      "ぜそぞただちぢっつづてでとどなにぬねのはばぱひびぴふぶぷへべぺほ" ++
      "ぼぽまみむめもゃやゅゆょよらりるれろゎわゐゑをんァアィイゥウェ"⟩,
    ⟨[0xC7], 0x40, "エォオカガキギクグケゲコゴサザシジスズセゼソゾタダチヂッツヅテデ" ++
      "トドナニヌネノハバパヒビピフブプヘベペホボポマミムメモャヤュユ\uFDD0" ++
      "\uFDD0\uFDD0\uFDD0\uFDD0\uFDD0\uFDD0\uFDD0\uFDD0\uFDD0\uFDD0\uFDD0\uFDD0\uFDD0\uFDD0\uFDD0\uFDD0\uFDD0\uFDD0\uFDD0\uFDD0\uFDD0\uFDD0\uFDD0\uFDD0\uFDD0\uFDD0\uFDD0\uFDD0\uFDD0\uFDD0\uFDD0\uFDD0" ++
      "\uFDD0ョヨラリルレロヮワヰヱヲンヴヵヶДЕЁЖЗИЙКЛМУФХЦЧ" ++
      "ШЩЪЫЬЭЮЯабвгдеёжзийклмнопрстуфхц" ++
      "чшщъыьэюя①②③④⑤⑥⑦⑧⑨⑩⑴⑵⑶⑷⑸⑹⑺⑻⑼⑽"⟩,
    ⟨[0xC9], 0x40, "乂乜凵匚厂万丌乇亍囗兀屮彳丏冇与丮亓仂仉仈冘勼卬厹圠夃夬尐巿旡殳" ++
      "毌气爿丱丼仨仜仩仡仝仚刌匜卌圢圣夗夯宁宄尒尻屴屳帄庀庂忉戉扐氕\uFDD0" ++
      "\uFDD0\uFDD0\uFDD0\uFDD0\uFDD0\uFDD0\uFDD0\uFDD0\uFDD0\uFDD0\uFDD0\uFDD0\uFDD0\uFDD0\uFDD0\uFDD0\uFDD0\uFDD0\uFDD0\uFDD0\uFDD0\uFDD0\uFDD0\uFDD0\uFDD0\uFDD0\uFDD0\uFDD0\uFDD0\uFDD0\uFDD0\uFDD0" ++
      "\uFDD0氶汃氿氻犮犰玊禸肊阞伎优伬仵伔仱伀价伈伝伂伅伢伓伄仴伒冱刓刉刐" ++
      "劦匢匟卍厊吇囡囟圮圪圴夼妀奼妅奻奾奷奿孖尕尥屼屺屻屾巟幵庄异弚彴" ++
      "忕忔忏扜扞扤扡扦扢扙扠扚扥旯旮朾朹朸朻机朿朼朳氘汆汒汜汏汊汔汋"⟩,
    ⟨[0xCA], 0x40, "汌灱牞犴犵玎甪癿穵网艸艼芀艽艿虍襾邙邗邘邛邔阢阤阠阣佖伻佢佉体佤" ++
      "伾佧佒佟佁佘伭伳伿佡冏冹刜刞刡劭劮匉卣卲厎厏吰吷吪呔呅吙吜吥吘\uFDD0" ++
      "\uFDD0\uFDD0\uFDD0\uFDD0\uFDD0\uFDD0\uFDD0\uFDD0\uFDD0\uFDD0\uFDD0\uFDD0\uFDD0\uFDD0\uFDD0\uFDD0\uFDD0\uFDD0\uFDD0\uFDD0\uFDD0\uFDD0\uFDD0\uFDD0\uFDD0\uFDD0\uFDD0\uFDD0\uFDD0\uFDD0\uFDD0\uFDD0" ++
      "\uFDD0吽呏呁吨吤呇囮囧囥坁坅坌坉坋坒夆奀妦妘妠妗妎妢妐妏妧妡宎宒尨尪" ++
      "岍岏岈岋岉岒岊岆岓岕巠帊帎庋庉庌庈庍弅弝彸彶忒忑忐忭忨忮忳忡忤忣" ++
      "忺忯忷忻怀忴戺抃抌抎抏抔抇扱扻扺扰抁抈扷扽扲扴攷旰旴旳旲旵杅杇"⟩,
    ⟨[0xCB], 0x40, "杙杕杌杈杝杍杚杋毐氙氚汸汧汫沄沋沏汱汯汩沚汭沇沕沜汦汳汥汻沎灴灺" ++
      "牣犿犽狃狆狁犺狅玕玗玓玔玒町甹疔疕皁礽耴肕肙肐肒肜芐芏芅芎芑芓\uFDD0" ++
      "\uFDD0\uFDD0\uFDD0\uFDD0\uFDD0\uFDD0\uFDD0\uFDD0\uFDD0\uFDD0\uFDD0\uFDD0\uFDD0\uFDD0\uFDD0\uFDD0\uFDD0\uFDD0\uFDD0\uFDD0\uFDD0\uFDD0\uFDD0\uFDD0\uFDD0\uFDD0\uFDD0\uFDD0\uFDD0\uFDD0\uFDD0\uFDD0" ++
      "\uFDD0芊芃芄豸迉辿邟邡邥邞邧邠阰阨阯阭丳侘佼侅佽侀侇佶佴侉侄佷佌侗佪" ++
      "侚佹侁佸侐侜侔侞侒侂侕佫佮冞冼冾刵刲刳剆刱劼匊匋匼厒厔咇呿咁咑咂" ++
      "咈呫呺呾呥呬呴呦咍呯呡呠咘呣呧呤囷囹坯坲坭坫坱坰坶垀坵坻坳坴坢"⟩,
    ⟨[0xCC], 0x40, "坨坽夌奅妵妺姏姎妲姌姁妶妼姃姖妱妽姀姈妴姇孢孥宓宕屄屇岮岤岠岵岯" ++
      "岨岬岟岣岭岢岪岧岝岥岶岰岦帗帔帙弨弢弣弤彔徂彾彽忞忥怭怦怙怲怋\uFDD0" ++
      "\uFDD0\uFDD0\uFDD0\uFDD0\uFDD0\uFDD0\uFDD0\uFDD0\uFDD0\uFDD0\uFDD0\uFDD0\uFDD0\uFDD0\uFDD0\uFDD0\uFDD0\uFDD0\uFDD0\uFDD0\uFDD0\uFDD0\uFDD0\uFDD0\uFDD0\uFDD0\uFDD0\uFDD0\uFDD0\uFDD0\uFDD0\uFDD0" ++
      "\uFDD0怴怊怗怳怚怞怬怢怍怐怮怓怑怌怉怜戔戽抭抴拑抾抪抶拊抮抳抯抻抩抰" ++
      "抸攽斨斻昉旼昄昒昈旻昃昋昍昅旽昑昐曶朊枅杬枎枒杶杻枘枆构杴枍枌杺" ++
      "枟枑枙枃杽极杸杹枔欥殀歾毞氝沓泬泫泮泙沶泔沭泧沷泐泂沺泃泆泭泲"⟩,
    ⟨[0xCD], 0x40, "泒泝沴沊沝沀泞泀洰泍泇沰泹泏泩泑炔炘炅炓炆炄炑炖炂炚炃牪狖狋狘狉" ++
      "狜狒狔狚狌狑玤玡玭玦玢玠玬玝瓝瓨甿畀甾疌疘皯盳盱盰盵矸矼矹矻矺\uFDD0" ++
      "\uFDD0\uFDD0\uFDD0\uFDD0\uFDD0\uFDD0\uFDD0\uFDD0\uFDD0\uFDD0\uFDD0\uFDD0\uFDD0\uFDD0\uFDD0\uFDD0\uFDD0\uFDD0\uFDD0\uFDD0\uFDD0\uFDD0\uFDD0\uFDD0\uFDD0\uFDD0\uFDD0\uFDD0\uFDD0\uFDD0\uFDD0\uFDD0" ++
      "\uFDD0矷祂礿秅穸穻竻籵糽耵肏肮肣肸肵肭舠芠苀芫芚芘芛芵芧芮芼芞芺芴芨" ++
      "芡芩苂芤苃芶芢虰虯虭虮豖迒迋迓迍迖迕迗邲邴邯邳邰阹阽阼阺陃俍俅俓" ++
      "侲俉俋俁俔俜俙侻侳俛俇俖侺俀侹俬剄剉勀勂匽卼厗厖厙厘咺咡咭咥哏"⟩,
    ⟨[0xCE], 0x40, "哃茍咷咮哖咶哅哆咠呰咼咢咾呲哞咰垵垞垟垤垌垗垝垛垔垘垏垙垥垚垕壴" ++
      "复奓姡姞姮娀姱姝姺姽姼姶姤姲姷姛姩姳姵姠姾姴姭宨屌峐峘峌峗峋峛\uFDD0" ++
      "\uFDD0\uFDD0\uFDD0\uFDD0\uFDD0\uFDD0\uFDD0\uFDD0\uFDD0\uFDD0\uFDD0\uFDD0\uFDD0\uFDD0\uFDD0\uFDD0\uFDD0\uFDD0\uFDD0\uFDD0\uFDD0\uFDD0\uFDD0\uFDD0\uFDD0\uFDD0\uFDD0\uFDD0\uFDD0\uFDD0\uFDD0\uFDD0" ++
      "\uFDD0峞峚峉峇峊峖峓峔峏峈峆峎峟峸巹帡帢帣帠帤庰庤庢庛庣庥弇弮彖徆怷" ++
      "怹恔恲恞恅恓恇恉恛恌恀恂恟怤恄恘恦恮扂扃拏挍挋拵挎挃拫拹挏挌拸拶" ++
      "挀挓挔拺挕拻拰敁敃斪斿昶昡昲昵昜昦昢昳昫昺昝昴昹昮朏朐柁柲柈枺"⟩,
    ⟨[0xCF], 0x40, "柜枻柸柘柀枷柅柫柤柟枵柍枳柷柶柮柣柂枹柎柧柰枲柼柆柭柌枮柦柛柺柉" ++
      "柊柃柪柋欨殂殄殶毖毘毠氠氡洨洴洭洟洼洿洒洊泚洳洄洙洺洚洑洀洝浂\uFDD0" ++
      "\uFDD0\uFDD0\uFDD0\uFDD0\uFDD0\uFDD0\uFDD0\uFDD0\uFDD0\uFDD0\uFDD0\uFDD0\uFDD0\uFDD0\uFDD0\uFDD0\uFDD0\uFDD0\uFDD0\uFDD0\uFDD0\uFDD0\uFDD0\uFDD0\uFDD0\uFDD0\uFDD0\uFDD0\uFDD0\uFDD0\uFDD0\uFDD0" ++
      "\uFDD0洁洘洷洃洏浀洇洠洬洈洢洉洐炷炟炾炱炰炡炴炵炩牁牉牊牬牰牳牮狊狤" ++
      "狨狫狟狪狦狣玅珌珂珈珅玹玶玵玴珫玿珇玾珃珆玸珋瓬瓮甮畇畈疧疪癹盄" ++
      "眈眃眄眅眊盷盻盺矧矨砆砑砒砅砐砏砎砉砃砓祊祌祋祅祄秕种秏秖秎窀"⟩,
    ⟨[0xD0], 0x40, "穾竑笀笁籺籸籹籿粀粁紃紈紁罘羑羍羾耇耎耏耔耷胘胇胠胑胈胂胐胅胣胙" ++
      "胜胊胕胉胏胗胦胍臿舡芔苙苾苹茇苨茀苕茺苫苖苴苬苡苲苵茌苻苶苰苪\uFDD0" ++
      "\uFDD0\uFDD0\uFDD0\uFDD0\uFDD0\uFDD0\uFDD0\uFDD0\uFDD0\uFDD0\uFDD0\uFDD0\uFDD0\uFDD0\uFDD0\uFDD0\uFDD0\uFDD0\uFDD0\uFDD0\uFDD0\uFDD0\uFDD0\uFDD0\uFDD0\uFDD0\uFDD0\uFDD0\uFDD0\uFDD0\uFDD0\uFDD0" ++
      "\uFDD0苤苠苺苳苭虷虴虼虳衁衎衧衪衩觓訄訇赲迣迡迮迠郱邽邿郕郅邾郇郋郈" ++
      "釔釓陔陏陑陓陊陎倞倅倇倓倢倰倛俵俴倳倷倬俶俷倗倜倠倧倵倯倱倎党冔" ++
      "冓凊凄凅凈凎剡剚剒剞剟剕剢勍匎厞唦哢唗唒哧哳哤唚哿唄唈哫唑唅哱"⟩,
    ⟨[0xD1], 0x40, "唊哻哷哸哠唎唃唋圁圂埌堲埕埒垺埆垽垼垸垶垿埇埐垹埁夎奊娙娖娭娮娕" ++
      "娏娗娊娞娳孬宧宭宬尃屖屔峬峿峮峱峷崀峹帩帨庨庮庪庬弳弰彧恝恚恧\uFDD0" ++
      "\uFDD0\uFDD0\uFDD0\uFDD0\uFDD0\uFDD0\uFDD0\uFDD0\uFDD0\uFDD0\uFDD0\uFDD0\uFDD0\uFDD0\uFDD0\uFDD0\uFDD0\uFDD0\uFDD0\uFDD0\uFDD0\uFDD0\uFDD0\uFDD0\uFDD0\uFDD0\uFDD0\uFDD0\uFDD0\uFDD0\uFDD0\uFDD0" ++
      "\uFDD0恁悢悈悀悒悁悝悃悕悛悗悇悜悎戙扆拲挐捖挬捄捅挶捃揤挹捋捊挼挩捁" ++
      "挴捘捔捙挭捇挳捚捑挸捗捀捈敊敆旆旃旄旂晊晟晇晑朒朓栟栚桉栲栳栻桋" ++
      "桏栖栱栜栵栫栭栯桎桄栴栝栒栔栦栨栮桍栺栥栠欬欯欭欱欴歭肂殈毦毤"⟩,
    ⟨[0xD2], 0x40, "毨毣毢毧氥浺浣浤浶洍浡涒浘浢浭浯涑涍淯浿涆浞浧浠涗浰浼浟涂涘洯浨" ++
      "涋浾涀涄洖涃浻浽浵涐烜烓烑烝烋缹烢烗烒烞烠烔烍烅烆烇烚烎烡牂牸\uFDD0" ++
      "\uFDD0\uFDD0\uFDD0\uFDD0\uFDD0\uFDD0\uFDD0\uFDD0\uFDD0\uFDD0\uFDD0\uFDD0\uFDD0\uFDD0\uFDD0\uFDD0\uFDD0\uFDD0\uFDD0\uFDD0\uFDD0\uFDD0\uFDD0\uFDD0\uFDD0\uFDD0\uFDD0\uFDD0\uFDD0\uFDD0\uFDD0\uFDD0" ++
      "\uFDD0牷牶猀狺狴狾狶狳狻猁珓珙珥珖玼珧珣珩珜珒珛珔珝珚珗珘珨瓞瓟瓴瓵" ++
      "甡畛畟疰痁疻痄痀疿疶疺皊盉眝眛眐眓眒眣眑眕眙眚眢眧砣砬砢砵砯砨砮" ++
      "砫砡砩砳砪砱祔祛祏祜祓祒祑秫秬秠秮秭秪秜秞秝窆窉窅窋窌窊窇竘笐"⟩,
    ⟨[0xD3], 0x40, "笄笓笅笏笈笊笎笉笒粄粑粊粌粈粍粅紞紝紑紎紘紖紓紟紒紏紌罜罡罞罠罝" ++
      "罛羖羒翃翂翀耖耾耹胺胲胹胵脁胻脀舁舯舥茳茭荄茙荑茥荖茿荁茦茜茢\uFDD0" ++
      "\uFDD0\uFDD0\uFDD0\uFDD0\uFDD0\uFDD0\uFDD0\uFDD0\uFDD0\uFDD0\uFDD0\uFDD0\uFDD0\uFDD0\uFDD0\uFDD0\uFDD0\uFDD0\uFDD0\uFDD0\uFDD0\uFDD0\uFDD0\uFDD0\uFDD0\uFDD0\uFDD0\uFDD0\uFDD0\uFDD0\uFDD0\uFDD0" ++
      "\uFDD0荂荎茛茪茈茼荍茖茤茠茷茯茩荇荅荌荓茞茬荋茧荈虓虒蚢蚨蚖蚍蚑蚞蚇" ++
      "蚗蚆蚋蚚蚅蚥蚙蚡蚧蚕蚘蚎蚝蚐蚔衃衄衭衵衶衲袀衱衿衯袃衾衴衼訒豇豗" ++
      "豻貤貣赶赸趵趷趶軑軓迾迵适迿迻逄迼迶郖郠郙郚郣郟郥郘郛郗郜郤酐"⟩,
    ⟨[0xD4], 0x40, "酎酏釕釢釚陜陟隼飣髟鬯乿偰偪偡偞偠偓偋偝偲偈偍偁偛偊偢倕偅偟偩偫" ++
      "偣偤偆偀偮偳偗偑凐剫剭剬剮勖勓匭厜啵啶唼啍啐唴唪啑啢唶唵唰啒啅\uFDD0" ++
      "\uFDD0\uFDD0\uFDD0\uFDD0\uFDD0\uFDD0\uFDD0\uFDD0\uFDD0\uFDD0\uFDD0\uFDD0\uFDD0\uFDD0\uFDD0\uFDD0\uFDD0\uFDD0\uFDD0\uFDD0\uFDD0\uFDD0\uFDD0\uFDD0\uFDD0\uFDD0\uFDD0\uFDD0\uFDD0\uFDD0\uFDD0\uFDD0" ++
      "\uFDD0唌唲啥啎唹啈唭唻啀啋圊圇埻堔埢埶埜埴堀埭埽堈埸堋埳埏堇埮埣埲埥" ++
      "埬埡堎埼堐埧堁堌埱埩埰堍堄奜婠婘婕婧婞娸娵婭婐婟婥婬婓婤婗婃婝婒" ++
      "婄婛婈媎娾婍娹婌婰婩婇婑婖婂婜孲孮寁寀屙崞崋崝崚崠崌崨崍崦崥崏"⟩,
    ⟨[0xD5], 0x40, "崰崒崣崟崮帾帴庱庴庹庲庳弶弸徛徖徟悊悐悆悾悰悺惓惔惏惤惙惝惈悱惛" ++
      "悷惊悿惃惍惀挲捥掊掂捽掽掞掭掝掗掫掎捯掇掐据掯捵掜捭掮捼掤挻掟\uFDD0" ++
      "\uFDD0\uFDD0\uFDD0\uFDD0\uFDD0\uFDD0\uFDD0\uFDD0\uFDD0\uFDD0\uFDD0\uFDD0\uFDD0\uFDD0\uFDD0\uFDD0\uFDD0\uFDD0\uFDD0\uFDD0\uFDD0\uFDD0\uFDD0\uFDD0\uFDD0\uFDD0\uFDD0\uFDD0\uFDD0\uFDD0\uFDD0\uFDD0" ++
      "\uFDD0捸掅掁掑掍捰敓旍晥晡晛晙晜晢朘桹梇梐梜桭桮梮梫楖桯梣梬梩桵桴梲" ++
      "梏桷梒桼桫桲梪梀桱桾梛梖梋梠梉梤桸桻梑梌梊桽欶欳欷欸殑殏殍殎殌氪" ++
      "淀涫涴涳湴涬淩淢涷淶淔渀淈淠淟淖涾淥淜淝淛淴淊涽淭淰涺淕淂淏淉"⟩,
    ⟨[0xD6], 0x40, "淐淲淓淽淗淍淣涻烺焍烷焗烴焌烰焄烳焐烼烿焆焓焀烸烶焋焂焎牾牻牼牿" ++
      "猝猗猇猑猘猊猈狿猏猞玈珶珸珵琄琁珽琇琀珺珼珿琌琋珴琈畤畣痎痒痏\uFDD0" ++
      "\uFDD0\uFDD0\uFDD0\uFDD0\uFDD0\uFDD0\uFDD0\uFDD0\uFDD0\uFDD0\uFDD0\uFDD0\uFDD0\uFDD0\uFDD0\uFDD0\uFDD0\uFDD0\uFDD0\uFDD0\uFDD0\uFDD0\uFDD0\uFDD0\uFDD0\uFDD0\uFDD0\uFDD0\uFDD0\uFDD0\uFDD0\uFDD0" ++
      "\uFDD0痋痌痑痐皏皉盓眹眯眭眱眲眴眳眽眥眻眵硈硒硉硍硊硌砦硅硐祤祧祩祪" ++
      "祣祫祡离秺秸秶秷窏窔窐笵筇笴笥笰笢笤笳笘笪笝笱笫笭笯笲笸笚笣粔粘" ++
      "粖粣紵紽紸紶紺絅紬紩絁絇紾紿絊紻紨罣羕羜羝羛翊翋翍翐翑翇翏翉耟"⟩,
    ⟨[0xD7], 0x40, "耞耛聇聃聈脘脥脙脛脭脟脬脞脡脕脧脝脢舑舸舳舺舴舲艴莐莣莨莍荺荳莤" ++
      "荴莏莁莕莙荵莔莩荽莃莌莝莛莪莋荾莥莯莈莗莰荿莦莇莮荶莚虙虖蚿蚷\uFDD0" ++
      "\uFDD0\uFDD0\uFDD0\uFDD0\uFDD0\uFDD0\uFDD0\uFDD0\uFDD0\uFDD0\uFDD0\uFDD0\uFDD0\uFDD0\uFDD0\uFDD0\uFDD0\uFDD0\uFDD0\uFDD0\uFDD0\uFDD0\uFDD0\uFDD0\uFDD0\uFDD0\uFDD0\uFDD0\uFDD0\uFDD0\uFDD0\uFDD0" ++
      "\uFDD0蛂蛁蛅蚺蚰蛈蚹蚳蚸蛌蚴蚻蚼蛃蚽蚾衒袉袕袨袢袪袚袑袡袟袘袧袙袛袗" ++
      "袤袬袌袓袎覂觖觙觕訰訧訬訞谹谻豜豝豽貥赽赻赹趼跂趹趿跁軘軞軝軜軗" ++
      "軠軡逤逋逑逜逌逡郯郪郰郴郲郳郔郫郬郩酖酘酚酓酕釬釴釱釳釸釤釹釪"⟩,
    ⟨[0xD8], 0x40, "釫釷釨釮镺閆閈陼陭陫陱陯隿靪頄飥馗傛傕傔傞傋傣傃傌傎傝偨傜傒傂傇" ++
      "兟凔匒匑厤厧喑喨喥喭啷噅喢喓喈喏喵喁喣喒喤啽喌喦啿喕喡喎圌堩堷\uFDD0" ++
      "\uFDD0\uFDD0\uFDD0\uFDD0\uFDD0\uFDD0\uFDD0\uFDD0\uFDD0\uFDD0\uFDD0\uFDD0\uFDD0\uFDD0\uFDD0\uFDD0\uFDD0\uFDD0\uFDD0\uFDD0\uFDD0\uFDD0\uFDD0\uFDD0\uFDD0\uFDD0\uFDD0\uFDD0\uFDD0\uFDD0\uFDD0\uFDD0" ++
      "\uFDD0堙堞堧堣堨埵塈堥堜堛堳堿堶堮堹堸堭堬堻奡媯媔媟婺媢媞婸媦婼媥媬" ++
      "媕媮娷媄媊媗媃媋媩婻婽媌媜媏媓媝寪寍寋寔寑寊寎尌尰崷嵃嵫嵁嵋崿崵" ++
      "嵑嵎嵕崳崺嵒崽崱嵙嵂崹嵉崸崼崲崶嵀嵅幄幁彘徦徥徫惉悹惌惢惎惄愔"⟩,
    ⟨[0xD9], 0x40, "惲愊愖愅惵愓惸惼惾惁愃愘愝愐惿愄愋扊掔掱掰揎揥揨揯揃撝揳揊揠揶揕" ++
      "揲揵摡揟掾揝揜揄揘揓揂揇揌揋揈揰揗揙攲敧敪敤敜敨敥斌斝斞斮旐旒\uFDD0" ++
      "\uFDD0\uFDD0\uFDD0\uFDD0\uFDD0\uFDD0\uFDD0\uFDD0\uFDD0\uFDD0\uFDD0\uFDD0\uFDD0\uFDD0\uFDD0\uFDD0\uFDD0\uFDD0\uFDD0\uFDD0\uFDD0\uFDD0\uFDD0\uFDD0\uFDD0\uFDD0\uFDD0\uFDD0\uFDD0\uFDD0\uFDD0\uFDD0" ++
      "\uFDD0晼晬晻暀晱晹晪晲朁椌棓椄棜椪棬棪棱椏棖棷棫棤棶椓椐棳棡椇棌椈楰" ++
      "梴椑棯棆椔棸棐棽棼棨椋椊椗棎棈棝棞棦棴棑椆棔棩椕椥棇欹欻欿欼殔殗" ++
      "殙殕殽毰毲毳氰淼湆湇渟湉溈渼渽湅湢渫渿湁湝湳渜渳湋湀湑渻渃渮湞"⟩,
    ⟨[0xDA], 0x40, "湨湜湡渱渨湠湱湫渹渢渰湓湥渧湸湤湷湕湹湒湦渵渶湚焠焞焯烻焮焱焣焥" ++
      "焢焲焟焨焺焛牋牚犈犉犆犅犋猒猋猰猢猱猳猧猲猭猦猣猵猌琮琬琰琫琖\uFDD0" ++
      "\uFDD0\uFDD0\uFDD0\uFDD0\uFDD0\uFDD0\uFDD0\uFDD0\uFDD0\uFDD0\uFDD0\uFDD0\uFDD0\uFDD0\uFDD0\uFDD0\uFDD0\uFDD0\uFDD0\uFDD0\uFDD0\uFDD0\uFDD0\uFDD0\uFDD0\uFDD0\uFDD0\uFDD0\uFDD0\uFDD0\uFDD0\uFDD0" ++
      "\uFDD0琚琡琭琱琤琣琝琩琠琲瓻甯畯畬痧痚痡痦痝痟痤痗皕皒盚睆睇睄睍睅睊" ++
      "睎睋睌矞矬硠硤硥硜硭硱硪确硰硩硨硞硢祴祳祲祰稂稊稃稌稄窙竦竤筊笻" ++
      "筄筈筌筎筀筘筅粢粞粨粡絘絯絣絓絖絧絪絏絭絜絫絒絔絩絑絟絎缾缿罥"⟩,
    ⟨[0xDB], 0x40, "罦羢羠羡翗聑聏聐胾胔腃腊腒腏腇脽腍脺臦臮臷臸臹舄舼舽舿艵茻菏菹萣" ++
      "菀菨萒菧菤菼菶萐菆菈菫菣莿萁菝菥菘菿菡菋菎菖菵菉萉萏菞萑萆菂菳\uFDD0" ++
      "\uFDD0\uFDD0\uFDD0\uFDD0\uFDD0\uFDD0\uFDD0\uFDD0\uFDD0\uFDD0\uFDD0\uFDD0\uFDD0\uFDD0\uFDD0\uFDD0\uFDD0\uFDD0\uFDD0\uFDD0\uFDD0\uFDD0\uFDD0\uFDD0\uFDD0\uFDD0\uFDD0\uFDD0\uFDD0\uFDD0\uFDD0\uFDD0" ++
      "\uFDD0菕菺菇菑菪萓菃菬菮菄菻菗菢萛菛菾蛘蛢蛦蛓蛣蛚蛪蛝蛫蛜蛬蛩蛗蛨蛑" ++
      "衈衖衕袺裗袹袸裀袾袶袼袷袽袲褁裉覕覘覗觝觚觛詎詍訹詙詀詗詘詄詅詒" ++
      "詈詑詊詌詏豟貁貀貺貾貰貹貵趄趀趉跘跓跍跇跖跜跏跕跙跈跗跅軯軷軺"⟩,
    ⟨[0xDC], 0x40, "軹軦軮軥軵軧軨軶軫軱軬軴軩逭逴逯鄆鄬鄄郿郼鄈郹郻鄁鄀鄇鄅鄃酡酤酟" ++
      "酢酠鈁鈊鈥鈃鈚鈦鈏鈌鈀鈒釿釽鈆鈄鈧鈂鈜鈤鈙鈗鈅鈖镻閍閌閐隇陾隈\uFDD0" ++
      "\uFDD0\uFDD0\uFDD0\uFDD0\uFDD0\uFDD0\uFDD0\uFDD0\uFDD0\uFDD0\uFDD0\uFDD0\uFDD0\uFDD0\uFDD0\uFDD0\uFDD0\uFDD0\uFDD0\uFDD0\uFDD0\uFDD0\uFDD0\uFDD0\uFDD0\uFDD0\uFDD0\uFDD0\uFDD0\uFDD0\uFDD0\uFDD0" ++
      "\uFDD0隉隃隀雂雈雃雱雰靬靰靮頇颩飫鳦黹亃亄亶傽傿僆傮僄僊傴僈僂傰僁傺" ++
      "傱僋僉傶傸凗剺剸剻剼嗃嗛嗌嗐嗋嗊嗝嗀嗔嗄嗩喿嗒喍嗏嗕嗢嗖嗈嗲嗍嗙" ++
      "嗂圔塓塨塤塏塍塉塯塕塎塝塙塥塛堽塣塱壼嫇嫄嫋媺媸媱媵媰媿嫈媻嫆"⟩,
    ⟨[0xDD], 0x40, "媷嫀嫊媴媶嫍媹媐寖寘寙尟尳嵱嵣嵊嵥嵲嵬嵞嵨嵧嵢巰幏幎幊幍幋廅廌廆" ++
      "廋廇彀徯徭惷慉慊愫慅愶愲愮慆愯慏愩慀戠酨戣戥戤揅揱揫搐搒搉搠搤\uFDD0" ++
      "\uFDD0\uFDD0\uFDD0\uFDD0\uFDD0\uFDD0\uFDD0\uFDD0\uFDD0\uFDD0\uFDD0\uFDD0\uFDD0\uFDD0\uFDD0\uFDD0\uFDD0\uFDD0\uFDD0\uFDD0\uFDD0\uFDD0\uFDD0\uFDD0\uFDD0\uFDD0\uFDD0\uFDD0\uFDD0\uFDD0\uFDD0\uFDD0" ++
      "\uFDD0搳摃搟搕搘搹搷搢搣搌搦搰搨摁搵搯搊搚摀搥搧搋揧搛搮搡搎敯斒旓暆" ++
      "暌暕暐暋暊暙暔晸朠楦楟椸楎楢楱椿楅楪椹楂楗楙楺楈楉椵楬椳椽楥棰楸" ++
      "椴楩楀楯楄楶楘楁楴楌椻楋椷楜楏楑椲楒椯楻椼歆歅歃歂歈歁殛嗀毻毼"⟩,
    ⟨[0xDE], 0x40, "毹毷毸溛滖滈溏滀溟溓溔溠溱溹滆滒溽滁溞滉溷溰滍溦滏溲溾滃滜滘溙溒" ++
      "溎溍溤溡溿溳滐滊溗溮溣煇煔煒煣煠煁煝煢煲煸煪煡煂煘煃煋煰煟煐煓\uFDD0" ++
      "\uFDD0\uFDD0\uFDD0\uFDD0\uFDD0\uFDD0\uFDD0\uFDD0\uFDD0\uFDD0\uFDD0\uFDD0\uFDD0\uFDD0\uFDD0\uFDD0\uFDD0\uFDD0\uFDD0\uFDD0\uFDD0\uFDD0\uFDD0\uFDD0\uFDD0\uFDD0\uFDD0\uFDD0\uFDD0\uFDD0\uFDD0\uFDD0" ++
      "\uFDD0煄煍煚牏犍犌犑犐犎猼獂猻猺獀獊獉瑄瑊瑋瑒瑑瑗瑀瑏瑐瑎瑂瑆瑍瑔瓡" ++
      "瓿瓾瓽甝畹畷榃痯瘏瘃痷痾痼痹痸瘐痻痶痭痵痽皙皵盝睕睟睠睒睖睚睩睧" ++
      "睔睙睭矠碇碚碔碏碄碕碅碆碡碃硹碙碀碖硻祼禂祽祹稑稘稙稒稗稕稢稓"⟩,
    ⟨[0xDF], 0x40, "稛稐窣窢窞竫筦筤筭筴筩筲筥筳筱筰筡筸筶筣粲粴粯綈綆綀綍絿綅絺綎絻" ++
      "綃絼綌綔綄絽綒罭罫罧罨罬羦羥羧翛翜耡腤腠腷腜腩腛腢腲朡腞腶腧腯\uFDD0" ++
      "\uFDD0\uFDD0\uFDD0\uFDD0\uFDD0\uFDD0\uFDD0\uFDD0\uFDD0\uFDD0\uFDD0\uFDD0\uFDD0\uFDD0\uFDD0\uFDD0\uFDD0\uFDD0\uFDD0\uFDD0\uFDD0\uFDD0\uFDD0\uFDD0\uFDD0\uFDD0\uFDD0\uFDD0\uFDD0\uFDD0\uFDD0\uFDD0" ++
      "\uFDD0腄腡舝艉艄艀艂艅蓱萿葖葶葹蒏蒍葥葑葀蒆葧萰葍葽葚葙葴葳葝蔇葞萷" ++
      "萺萴葺葃葸萲葅萩菙葋萯葂萭葟葰萹葎葌葒葯蓅蒎萻葇萶萳葨葾葄萫葠葔" ++
      "葮葐蜋蜄蛷蜌蛺蛖蛵蝍蛸蜎蜉蜁蛶蜍蜅裖裋裍裎裞裛裚裌裐覅覛觟觥觤"⟩,
    ⟨[0xE0], 0x40, "觡觠觢觜触詶誆詿詡訿詷誂誄詵誃誁詴詺谼豋豊豥豤豦貆貄貅賌赨赩趑趌" ++
      "趎趏趍趓趔趐趒跰跠跬跱跮跐跩跣跢跧跲跫跴輆軿輁輀輅輇輈輂輋遒逿\uFDD0" ++
      "\uFDD0\uFDD0\uFDD0\uFDD0\uFDD0\uFDD0\uFDD0\uFDD0\uFDD0\uFDD0\uFDD0\uFDD0\uFDD0\uFDD0\uFDD0\uFDD0\uFDD0\uFDD0\uFDD0\uFDD0\uFDD0\uFDD0\uFDD0\uFDD0\uFDD0\uFDD0\uFDD0\uFDD0\uFDD0\uFDD0\uFDD0\uFDD0" ++
      "\uFDD0遄遉逽鄐鄍鄏鄑鄖鄔鄋鄎酮酯鉈鉒鈰鈺鉦鈳鉥鉞銃鈮鉊鉆鉭鉬鉏鉠鉧鉯" ++
      "鈶鉡鉰鈱鉔鉣鉐鉲鉎鉓鉌鉖鈲閟閜閞閛隒隓隑隗雎雺雽雸雵靳靷靸靲頏頍" ++
      "頎颬飶飹馯馲馰馵骭骫魛鳪鳭鳧麀黽僦僔僗僨僳僛僪僝僤僓僬僰僯僣僠"⟩,
    ⟨[0xE1], 0x40, "凘劀劁勩勫匰厬嘧嘕嘌嘒嗼嘏嘜嘁嘓嘂嗺嘝嘄嗿嗹墉塼墐墘墆墁塿塴墋塺" ++
      "墇墑墎塶墂墈塻墔墏壾奫嫜嫮嫥嫕嫪嫚嫭嫫嫳嫢嫠嫛嫬嫞嫝嫙嫨嫟孷寠\uFDD0" ++
      "\uFDD0\uFDD0\uFDD0\uFDD0\uFDD0\uFDD0\uFDD0\uFDD0\uFDD0\uFDD0\uFDD0\uFDD0\uFDD0\uFDD0\uFDD0\uFDD0\uFDD0\uFDD0\uFDD0\uFDD0\uFDD0\uFDD0\uFDD0\uFDD0\uFDD0\uFDD0\uFDD0\uFDD0\uFDD0\uFDD0\uFDD0\uFDD0" ++
      "\uFDD0寣屣嶂嶀嵽嶆嵺嶁嵷嶊嶉嶈嵾嵼嶍嵹嵿幘幙幓廘廑廗廎廜廕廙廒廔彄彃" ++
      "彯徶愬愨慁慞慱慳慒慓慲慬憀慴慔慺慛慥愻慪慡慖戩戧戫搫摍摛摝摴摶摲" ++
      "摳摽摵摦撦摎撂摞摜摋摓摠摐摿搿摬摫摙摥摷敳斠暡暠暟朅朄朢榱榶槉"⟩,
    ⟨[0xE2], 0x40, "榠槎榖榰榬榼榑榙榎榧榍榩榾榯榿槄榽榤槔榹槊榚槏榳榓榪榡榞槙榗榐槂" ++
      "榵榥槆歊歍歋殞殟殠毃毄毾滎滵滱漃漥滸漷滻漮漉潎漙漚漧漘漻漒滭漊\uFDD0" ++
      "\uFDD0\uFDD0\uFDD0\uFDD0\uFDD0\uFDD0\uFDD0\uFDD0\uFDD0\uFDD0\uFDD0\uFDD0\uFDD0\uFDD0\uFDD0\uFDD0\uFDD0\uFDD0\uFDD0\uFDD0\uFDD0\uFDD0\uFDD0\uFDD0\uFDD0\uFDD0\uFDD0\uFDD0\uFDD0\uFDD0\uFDD0\uFDD0" ++
      "\uFDD0漶潳滹滮漭潀漰漼漵滫漇漎潃漅滽滶漹漜滼漺漟漍漞漈漡熇熐熉熀熅熂" ++
      "熏煻熆熁熗牄牓犗犕犓獃獍獑獌瑢瑳瑱瑵瑲瑧瑮甀甂甃畽疐瘖瘈瘌瘕瘑瘊" ++
      "瘔皸瞁睼瞅瞂睮瞀睯睾瞃碲碪碴碭碨硾碫碞碥碠碬碢碤禘禊禋禖禕禔禓"⟩,
    ⟨[0xE3], 0x40, "禗禈禒禐稫穊稰稯稨稦窨窫窬竮箈箜箊箑箐箖箍箌箛箎箅箘劄箙箤箂粻粿" ++
      "粼粺綧綷緂綣綪緁緀緅綝緎緄緆緋緌綯綹綖綼綟綦綮綩綡緉罳翢翣翥翞\uFDD0" ++
      "\uFDD0\uFDD0\uFDD0\uFDD0\uFDD0\uFDD0\uFDD0\uFDD0\uFDD0\uFDD0\uFDD0\uFDD0\uFDD0\uFDD0\uFDD0\uFDD0\uFDD0\uFDD0\uFDD0\uFDD0\uFDD0\uFDD0\uFDD0\uFDD0\uFDD0\uFDD0\uFDD0\uFDD0\uFDD0\uFDD0\uFDD0\uFDD0" ++
      "\uFDD0耤聝聜膉膆膃膇膍膌膋舕蒗蒤蒡蒟蒺蓎蓂蒬蒮蒫蒹蒴蓁蓍蒪蒚蒱蓐蒝蒧" ++
      "蒻蒢蒔蓇蓌蒛蒩蒯蒨蓖蒘蒶蓏蒠蓗蓔蓒蓛蒰蒑虡蜳蜣蜨蝫蝀蜮蜞蜡蜙蜛蝃" ++
      "蜬蝁蜾蝆蜠蜲蜪蜭蜼蜒蜺蜱蜵蝂蜦蜧蜸蜤蜚蜰蜑裷裧裱裲裺裾裮裼裶裻"⟩,
    ⟨[0xE4], 0x40, "裰裬裫覝覡覟覞觩觫觨誫誙誋誒誏誖谽豨豩賕賏賗趖踉踂跿踍跽踊踃踇踆" ++
      "踅跾踀踄輐輑輎輍鄣鄜鄠鄢鄟鄝鄚鄤鄡鄛酺酲酹酳銥銤鉶銛鉺銠銔銪銍\uFDD0" ++
      "\uFDD0\uFDD0\uFDD0\uFDD0\uFDD0\uFDD0\uFDD0\uFDD0\uFDD0\uFDD0\uFDD0\uFDD0\uFDD0\uFDD0\uFDD0\uFDD0\uFDD0\uFDD0\uFDD0\uFDD0\uFDD0\uFDD0\uFDD0\uFDD0\uFDD0\uFDD0\uFDD0\uFDD0\uFDD0\uFDD0\uFDD0\uFDD0" ++
      "\uFDD0銦銚銫鉹銗鉿銣鋮銎銂銕銢鉽銈銡銊銆銌銙銧鉾銇銩銝銋鈭隞隡雿靘靽" ++
      "靺靾鞃鞀鞂靻鞄鞁靿韎韍頖颭颮餂餀餇馝馜駃馹馻馺駂馽駇骱髣髧鬾鬿魠" ++
      "魡魟鳱鳲鳵麧僿儃儰僸儆儇僶僾儋儌僽儊劋劌勱勯噈噂噌嘵噁噊噉噆噘"⟩,
    ⟨[0xE5], 0x40, "噚噀嘳嘽嘬嘾嘸嘪嘺圚墫墝墱墠墣墯墬墥墡壿嫿嫴嫽嫷嫶嬃嫸嬂嫹嬁嬇嬅" ++
      "嬏屧嶙嶗嶟嶒嶢嶓嶕嶠嶜嶡嶚嶞幩幝幠幜緳廛廞廡彉徲憋憃慹憱憰憢憉\uFDD0" ++
      "\uFDD0\uFDD0\uFDD0\uFDD0\uFDD0\uFDD0\uFDD0\uFDD0\uFDD0\uFDD0\uFDD0\uFDD0\uFDD0\uFDD0\uFDD0\uFDD0\uFDD0\uFDD0\uFDD0\uFDD0\uFDD0\uFDD0\uFDD0\uFDD0\uFDD0\uFDD0\uFDD0\uFDD0\uFDD0\uFDD0\uFDD0\uFDD0" ++
      "\uFDD0憛憓憯憭憟憒憪憡憍慦憳戭摮摰撖撠撅撗撜撏撋撊撌撣撟摨撱撘敶敺敹" ++
      "敻斲斳暵暰暩暲暷暪暯樀樆樗槥槸樕槱槤樠槿槬槢樛樝槾樧槲槮樔槷槧橀" ++
      "樈槦槻樍槼槫樉樄樘樥樏槶樦樇槴樖歑殥殣殢殦氁氀毿氂潁漦潾澇濆澒"⟩,
    ⟨[0xE6], 0x40, "澍澉澌潢潏澅潚澖潶潬澂潕潲潒潐潗澔澓潝漀潡潫潽潧澐潓澋潩潿澕潣潷" ++
      "潪潻熲熯熛熰熠熚熩熵熝熥熞熤熡熪熜熧熳犘犚獘獒獞獟獠獝獛獡獚獙\uFDD0" ++
      "\uFDD0\uFDD0\uFDD0\uFDD0\uFDD0\uFDD0\uFDD0\uFDD0\uFDD0\uFDD0\uFDD0\uFDD0\uFDD0\uFDD0\uFDD0\uFDD0\uFDD0\uFDD0\uFDD0\uFDD0\uFDD0\uFDD0\uFDD0\uFDD0\uFDD0\uFDD0\uFDD0\uFDD0\uFDD0\uFDD0\uFDD0\uFDD0" ++
      "\uFDD0獢璇璉璊璆璁瑽璅璈瑼瑹甈甇畾瘥瘞瘙瘝瘜瘣瘚瘨瘛皜皝皞皛瞍瞏瞉瞈" ++
      "磍碻磏磌磑磎磔磈磃磄磉禚禡禠禜禢禛歶稹窲窴窳箷篋箾箬篎箯箹篊箵糅" ++
      "糈糌糋緷緛緪緧緗緡縃緺緦緶緱緰緮緟罶羬羰羭翭翫翪翬翦翨聤聧膣膟"⟩,
    ⟨[0xE7], 0x40, "膞膕膢膙膗舖艏艓艒艐艎艑蔤蔻蔏蔀蔩蔎蔉蔍蔟蔊蔧蔜蓻蔫蓺蔈蔌蓴蔪蓲" ++
      "蔕蓷蓫蓳蓼蔒蓪蓩蔖蓾蔨蔝蔮蔂蓽蔞蓶蔱蔦蓧蓨蓰蓯蓹蔘蔠蔰蔋蔙蔯虢\uFDD0" ++
      "\uFDD0\uFDD0\uFDD0\uFDD0\uFDD0\uFDD0\uFDD0\uFDD0\uFDD0\uFDD0\uFDD0\uFDD0\uFDD0\uFDD0\uFDD0\uFDD0\uFDD0\uFDD0\uFDD0\uFDD0\uFDD0\uFDD0\uFDD0\uFDD0\uFDD0\uFDD0\uFDD0\uFDD0\uFDD0\uFDD0\uFDD0\uFDD0" ++
      "\uFDD0蝖蝣蝤蝷蟡蝳蝘蝔蝛蝒蝡蝚蝑蝞蝭蝪蝐蝎蝟蝝蝯蝬蝺蝮蝜蝥蝏蝻蝵蝢蝧" ++
      "蝩衚褅褌褔褋褗褘褙褆褖褑褎褉覢覤覣觭觰觬諏諆誸諓諑諔諕誻諗誾諀諅" ++
      "諘諃誺誽諙谾豍貏賥賟賙賨賚賝賧趠趜趡趛踠踣踥踤踮踕踛踖踑踙踦踧"⟩,
    ⟨[0xE8], 0x40, "踔踒踘踓踜踗踚輬輤輘輚輠輣輖輗遳遰遯遧遫鄯鄫鄩鄪鄲鄦鄮醅醆醊醁醂" ++
      "醄醀鋐鋃鋄鋀鋙銶鋏鋱鋟鋘鋩鋗鋝鋌鋯鋂鋨鋊鋈鋎鋦鋍鋕鋉鋠鋞鋧鋑鋓\uFDD0" ++
      "\uFDD0\uFDD0\uFDD0\uFDD0\uFDD0\uFDD0\uFDD0\uFDD0\uFDD0\uFDD0\uFDD0\uFDD0\uFDD0\uFDD0\uFDD0\uFDD0\uFDD0\uFDD0\uFDD0\uFDD0\uFDD0\uFDD0\uFDD0\uFDD0\uFDD0\uFDD0\uFDD0\uFDD0\uFDD0\uFDD0\uFDD0\uFDD0" ++
      "\uFDD0銵鋡鋆銴镼閬閫閮閰隤隢雓霅霈霂靚鞊鞎鞈韐韏頞頝頦頩頨頠頛頧颲餈" ++
      "飺餑餔餖餗餕駜駍駏駓駔駎駉駖駘駋駗駌骳髬髫髳髲髱魆魃魧魴魱魦魶魵" ++
      "魰魨魤魬鳼鳺鳽鳿鳷鴇鴀鳹鳻鴈鴅鴄麃黓鼏鼐儜儓儗儚儑凞匴叡噰噠噮"⟩,
    ⟨[0xE9], 0x40, "噳噦噣噭噲噞噷圜圛壈墽壉墿墺壂墼壆嬗嬙嬛嬡嬔嬓嬐嬖嬨嬚嬠嬞寯嶬嶱" ++
      "嶩嶧嶵嶰嶮嶪嶨嶲嶭嶯嶴幧幨幦幯廩廧廦廨廥彋徼憝憨憖懅憴懆懁懌憺\uFDD0" ++
      "\uFDD0\uFDD0\uFDD0\uFDD0\uFDD0\uFDD0\uFDD0\uFDD0\uFDD0\uFDD0\uFDD0\uFDD0\uFDD0\uFDD0\uFDD0\uFDD0\uFDD0\uFDD0\uFDD0\uFDD0\uFDD0\uFDD0\uFDD0\uFDD0\uFDD0\uFDD0\uFDD0\uFDD0\uFDD0\uFDD0\uFDD0\uFDD0" ++
      "\uFDD0憿憸憌擗擖擐擏擉撽撉擃擛擳擙攳敿敼斢曈暾曀曊曋曏暽暻暺曌朣樴橦" ++
      "橉橧樲橨樾橝橭橶橛橑樨橚樻樿橁橪橤橐橏橔橯橩橠樼橞橖橕橍橎橆歕歔" ++
      "歖殧殪殫毈毇氄氃氆澭濋澣濇澼濎濈潞濄澽澞濊澨瀄澥澮澺澬澪濏澿澸"⟩,
    ⟨[0xEA], 0x40, "澢濉澫濍澯澲澰燅燂熿熸燖燀燁燋燔燊燇燏熽燘熼燆燚燛犝犞獩獦獧獬獥" ++
      "獫獪瑿璚璠璔璒璕璡甋疀瘯瘭瘱瘽瘳瘼瘵瘲瘰皻盦瞚瞝瞡瞜瞛瞢瞣瞕瞙\uFDD0" ++
      "\uFDD0\uFDD0\uFDD0\uFDD0\uFDD0\uFDD0\uFDD0\uFDD0\uFDD0\uFDD0\uFDD0\uFDD0\uFDD0\uFDD0\uFDD0\uFDD0\uFDD0\uFDD0\uFDD0\uFDD0\uFDD0\uFDD0\uFDD0\uFDD0\uFDD0\uFDD0\uFDD0\uFDD0\uFDD0\uFDD0\uFDD0\uFDD0" ++
      "\uFDD0瞗磝磩磥磪磞磣磛磡磢磭磟磠禤穄穈穇窶窸窵窱窷篞篣篧篝篕篥篚篨篹" ++
      "篔篪篢篜篫篘篟糒糔糗糐糑縒縡縗縌縟縠縓縎縜縕縚縢縋縏縖縍縔縥縤罃" ++
      "罻罼罺羱翯耪耩聬膱膦膮膹膵膫膰膬膴膲膷膧臲艕艖艗蕖蕅蕫蕍蕓蕡蕘"⟩,
    ⟨[0xEB], 0x40, "蕀蕆蕤蕁蕢蕄蕑蕇蕣蔾蕛蕱蕎蕮蕵蕕蕧蕠薌蕦蕝蕔蕥蕬虣虥虤螛螏螗螓螒" ++
      "螈螁螖螘蝹螇螣螅螐螑螝螄螔螜螚螉褞褦褰褭褮褧褱褢褩褣褯褬褟觱諠\uFDD0" ++
      "\uFDD0\uFDD0\uFDD0\uFDD0\uFDD0\uFDD0\uFDD0\uFDD0\uFDD0\uFDD0\uFDD0\uFDD0\uFDD0\uFDD0\uFDD0\uFDD0\uFDD0\uFDD0\uFDD0\uFDD0\uFDD0\uFDD0\uFDD0\uFDD0\uFDD0\uFDD0\uFDD0\uFDD0\uFDD0\uFDD0\uFDD0\uFDD0" ++
      "\uFDD0諢諲諴諵諝謔諤諟諰諈諞諡諨諿諯諻貑貒貐賵賮賱賰賳赬赮趥趧踳踾踸" ++
      "蹀蹅踶踼踽蹁踰踿躽輶輮輵輲輹輷輴遶遹遻邆郺鄳鄵鄶醓醐醑醍醏錧錞錈" ++
      "錟錆錏鍺錸錼錛錣錒錁鍆錭錎錍鋋錝鋺錥錓鋹鋷錴錂錤鋿錩錹錵錪錔錌"⟩,
    ⟨[0xEC], 0x40, "錋鋾錉錀鋻錖閼闍閾閹閺閶閿閵閽隩雔霋霒霐鞙鞗鞔韰韸頵頯頲餤餟餧餩" ++
      "馞駮駬駥駤駰駣駪駩駧骹骿骴骻髶髺髹髷鬳鮀鮅鮇魼魾魻鮂鮓鮒鮐魺鮕\uFDD0" ++
      "\uFDD0\uFDD0\uFDD0\uFDD0\uFDD0\uFDD0\uFDD0\uFDD0\uFDD0\uFDD0\uFDD0\uFDD0\uFDD0\uFDD0\uFDD0\uFDD0\uFDD0\uFDD0\uFDD0\uFDD0\uFDD0\uFDD0\uFDD0\uFDD0\uFDD0\uFDD0\uFDD0\uFDD0\uFDD0\uFDD0\uFDD0\uFDD0" ++
      "\uFDD0魽鮈鴥鴗鴠鴞鴔鴩鴝鴘鴢鴐鴙鴟麈麆麇麮麭黕黖黺鼒鼽儦儥儢儤儠儩勴" ++
      "嚓嚌嚍嚆嚄嚃噾嚂噿嚁壖壔壏壒嬭嬥嬲嬣嬬嬧嬦嬯嬮孻寱寲嶷幬幪徾徻懃" ++
      "憵憼懧懠懥懤懨懞擯擩擣擫擤擨斁斀斶旚曒檍檖檁檥檉檟檛檡檞檇檓檎"⟩,
    ⟨[0xED], 0x40, "檕檃檨檤檑橿檦檚檅檌檒歛殭氉濌澩濴濔濣濜濭濧濦濞濲濝濢濨燡燱燨燲" ++
      "燤燰燢獳獮獯璗璲璫璐璪璭璱璥璯甐甑甒甏疄癃癈癉癇皤盩瞵瞫瞲瞷瞶\uFDD0" ++
      "\uFDD0\uFDD0\uFDD0\uFDD0\uFDD0\uFDD0\uFDD0\uFDD0\uFDD0\uFDD0\uFDD0\uFDD0\uFDD0\uFDD0\uFDD0\uFDD0\uFDD0\uFDD0\uFDD0\uFDD0\uFDD0\uFDD0\uFDD0\uFDD0\uFDD0\uFDD0\uFDD0\uFDD0\uFDD0\uFDD0\uFDD0\uFDD0" ++
      "\uFDD0瞴瞱瞨矰磳磽礂磻磼磲礅磹磾礄禫禨穜穛穖穘穔穚窾竀竁簅簏篲簀篿篻" ++
      "簎篴簋篳簂簉簃簁篸篽簆篰篱簐簊糨縭縼繂縳顈縸縪繉繀繇縩繌縰縻縶繄" ++
      "縺罅罿罾罽翴翲耬膻臄臌臊臅臇膼臩艛艚艜薃薀薏薧薕薠薋薣蕻薤薚薞"⟩,
    ⟨[0xEE], 0x40, "蕷蕼薉薡蕺蕸蕗薎薖薆薍薙薝薁薢薂薈薅蕹蕶薘薐薟虨螾螪螭蟅螰螬螹螵" ++
      "螼螮蟉蟃蟂蟌螷螯蟄蟊螴螶螿螸螽蟞螲褵褳褼褾襁襒褷襂覭覯覮觲觳謞\uFDD0" ++
      "\uFDD0\uFDD0\uFDD0\uFDD0\uFDD0\uFDD0\uFDD0\uFDD0\uFDD0\uFDD0\uFDD0\uFDD0\uFDD0\uFDD0\uFDD0\uFDD0\uFDD0\uFDD0\uFDD0\uFDD0\uFDD0\uFDD0\uFDD0\uFDD0\uFDD0\uFDD0\uFDD0\uFDD0\uFDD0\uFDD0\uFDD0\uFDD0" ++
      "\uFDD0謘謖謑謅謋謢謏謒謕謇謍謈謆謜謓謚豏豰豲豱豯貕貔賹赯蹎蹍蹓蹐蹌蹇" ++
      "轃轀邅遾鄸醚醢醛醙醟醡醝醠鎡鎃鎯鍤鍖鍇鍼鍘鍜鍶鍉鍐鍑鍠鍭鎏鍌鍪鍹" ++
      "鍗鍕鍒鍏鍱鍷鍻鍡鍞鍣鍧鎀鍎鍙闇闀闉闃闅閷隮隰隬霠霟霘霝霙鞚鞡鞜"⟩,
    ⟨[0xEF], 0x40, "鞞鞝韕韔韱顁顄顊顉顅顃餥餫餬餪餳餲餯餭餱餰馘馣馡騂駺駴駷駹駸駶駻" ++
      "駽駾駼騃骾髾髽鬁髼魈鮚鮨鮞鮛鮦鮡鮥鮤鮆鮢鮠鮯鴳鵁鵧鴶鴮鴯鴱鴸鴰\uFDD0" ++
      "\uFDD0\uFDD0\uFDD0\uFDD0\uFDD0\uFDD0\uFDD0\uFDD0\uFDD0\uFDD0\uFDD0\uFDD0\uFDD0\uFDD0\uFDD0\uFDD0\uFDD0\uFDD0\uFDD0\uFDD0\uFDD0\uFDD0\uFDD0\uFDD0\uFDD0\uFDD0\uFDD0\uFDD0\uFDD0\uFDD0\uFDD0\uFDD0" ++
      "\uFDD0鵅鵂鵃鴾鴷鵀鴽翵鴭麊麉麍麰黈黚黻黿鼤鼣鼢齔龠儱儭儮嚘嚜嚗嚚嚝嚙" ++
      "奰嬼屩屪巀幭幮懘懟懭懮懱懪懰懫懖懩擿攄擽擸攁攃擼斔旛曚曛曘櫅檹檽" ++
      "櫡櫆檺檶檷櫇檴檭歞毉氋瀇瀌瀍瀁瀅瀔瀎濿瀀濻瀦濼濷瀊爁燿燹爃燽獶"⟩,
    ⟨[0xF0], 0x40, "璸瓀璵瓁璾璶璻瓂甔甓癜癤癙癐癓癗癚皦皽盬矂瞺磿礌礓礔礉礐礒礑禭禬" ++
      "穟簜簩簙簠簟簭簝簦簨簢簥簰繜繐繖繣繘繢繟繑繠繗繓羵羳翷翸聵臑臒\uFDD0" ++
      "\uFDD0\uFDD0\uFDD0\uFDD0\uFDD0\uFDD0\uFDD0\uFDD0\uFDD0\uFDD0\uFDD0\uFDD0\uFDD0\uFDD0\uFDD0\uFDD0\uFDD0\uFDD0\uFDD0\uFDD0\uFDD0\uFDD0\uFDD0\uFDD0\uFDD0\uFDD0\uFDD0\uFDD0\uFDD0\uFDD0\uFDD0\uFDD0" ++
      "\uFDD0臐艟艞薴藆藀藃藂薳薵薽藇藄薿藋藎藈藅薱薶藒蘤薸薷薾虩蟧蟦蟢蟛蟫" ++
      "蟪蟥蟟蟳蟤蟔蟜蟓蟭蟘蟣螤蟗蟙蠁蟴蟨蟝襓襋襏襌襆襐襑襉謪謧謣謳謰謵" ++
      "譇謯謼謾謱謥謷謦謶謮謤謻謽謺豂豵貙貘貗賾贄贂贀蹜蹢蹠蹗蹖蹞蹥蹧"⟩,
    ⟨[0xF1], 0x40, "蹛蹚蹡蹝蹩蹔轆轇轈轋鄨鄺鄻鄾醨醥醧醯醪鎵鎌鎒鎷鎛鎝鎉鎧鎎鎪鎞鎦鎕" ++
      "鎈鎙鎟鎍鎱鎑鎲鎤鎨鎴鎣鎥闒闓闑隳雗雚巂雟雘雝霣霢霥鞬鞮鞨鞫鞤鞪\uFDD0" ++
      "\uFDD0\uFDD0\uFDD0\uFDD0\uFDD0\uFDD0\uFDD0\uFDD0\uFDD0\uFDD0\uFDD0\uFDD0\uFDD0\uFDD0\uFDD0\uFDD0\uFDD0\uFDD0\uFDD0\uFDD0\uFDD0\uFDD0\uFDD0\uFDD0\uFDD0\uFDD0\uFDD0\uFDD0\uFDD0\uFDD0\uFDD0\uFDD0" ++
      "\uFDD0鞢鞥韗韙韖韘韺顐顑顒颸饁餼餺騏騋騉騍騄騑騊騅騇騆髀髜鬈鬄鬅鬩鬵" ++
      "魊魌魋鯇鯆鯃鮿鯁鮵鮸鯓鮶鯄鮹鮽鵜鵓鵏鵊鵛鵋鵙鵖鵌鵗鵒鵔鵟鵘鵚麎麌" ++
      "黟鼁鼀鼖鼥鼫鼪鼩鼨齌齕儴儵劖勷厴嚫嚭嚦嚧嚪嚬壚壝壛夒嬽嬾嬿巃幰"⟩,
    ⟨[0xF2], 0x40, "徿懻攇攐攍攉攌攎斄旞旝曞櫧櫠櫌櫑櫙櫋櫟櫜櫐櫫櫏櫍櫞歠殰氌瀙瀧瀠瀖" ++
      "瀫瀡瀢瀣瀩瀗瀤瀜瀪爌爊爇爂爅犥犦犤犣犡瓋瓅璷瓃甖癠矉矊矄矱礝礛\uFDD0" ++
      "\uFDD0\uFDD0\uFDD0\uFDD0\uFDD0\uFDD0\uFDD0\uFDD0\uFDD0\uFDD0\uFDD0\uFDD0\uFDD0\uFDD0\uFDD0\uFDD0\uFDD0\uFDD0\uFDD0\uFDD0\uFDD0\uFDD0\uFDD0\uFDD0\uFDD0\uFDD0\uFDD0\uFDD0\uFDD0\uFDD0\uFDD0\uFDD0" ++
      "\uFDD0礡礜礗礞禰穧穨簳簼簹簬簻糬糪繶繵繸繰繷繯繺繲繴繨罋罊羃羆羷翽翾" ++
      "聸臗臕艤艡艣藫藱藭藙藡藨藚藗藬藲藸藘藟藣藜藑藰藦藯藞藢蠀蟺蠃蟶蟷" ++
      "蠉蠌蠋蠆蟼蠈蟿蠊蠂襢襚襛襗襡襜襘襝襙覈覷覶觶譐譈譊譀譓譖譔譋譕"⟩,
    ⟨[0xF3], 0x40, "譑譂譒譗豃豷豶貚贆贇贉趬趪趭趫蹭蹸蹳蹪蹯蹻軂轒轑轏轐轓辴酀鄿醰醭" ++
      "鏞鏇鏏鏂鏚鏐鏹鏬鏌鏙鎩鏦鏊鏔鏮鏣鏕鏄鏎鏀鏒鏧镽闚闛雡霩霫霬霨霦\uFDD0" ++
      "\uFDD0\uFDD0\uFDD0\uFDD0\uFDD0\uFDD0\uFDD0\uFDD0\uFDD0\uFDD0\uFDD0\uFDD0\uFDD0\uFDD0\uFDD0\uFDD0\uFDD0\uFDD0\uFDD0\uFDD0\uFDD0\uFDD0\uFDD0\uFDD0\uFDD0\uFDD0\uFDD0\uFDD0\uFDD0\uFDD0\uFDD0\uFDD0" ++
      "\uFDD0鞳鞷鞶韝韞韟顜顙顝顗颿颽颻颾饈饇饃馦馧騚騕騥騝騤騛騢騠騧騣騞騜" ++
      "騔髂鬋鬊鬎鬌鬷鯪鯫鯠鯞鯤鯦鯢鯰鯔鯗鯬鯜鯙鯥鯕鯡鯚鵷鶁鶊鶄鶈鵱鶀鵸" ++
      "鶆鶋鶌鵽鵫鵴鵵鵰鵩鶅鵳鵻鶂鵯鵹鵿鶇鵨麔麑黀黼鼭齀齁齍齖齗齘匷嚲"⟩,
    ⟨[0xF4], 0x40, "嚵嚳壣孅巆巇廮廯忀忁懹攗攖攕攓旟曨曣曤櫳櫰櫪櫨櫹櫱櫮櫯瀼瀵瀯瀷瀴" ++
      "瀱灂瀸瀿瀺瀹灀瀻瀳灁爓爔犨獽獼璺皫皪皾盭矌矎矏矍矲礥礣礧礨礤礩\uFDD0" ++
      "\uFDD0\uFDD0\uFDD0\uFDD0\uFDD0\uFDD0\uFDD0\uFDD0\uFDD0\uFDD0\uFDD0\uFDD0\uFDD0\uFDD0\uFDD0\uFDD0\uFDD0\uFDD0\uFDD0\uFDD0\uFDD0\uFDD0\uFDD0\uFDD0\uFDD0\uFDD0\uFDD0\uFDD0\uFDD0\uFDD0\uFDD0\uFDD0" ++
      "\uFDD0禲穮穬穭竷籉籈籊籇籅糮繻繾纁纀羺翿聹臛臙舋艨艩蘢藿蘁藾蘛蘀藶蘄" ++
      "蘉蘅蘌藽蠙蠐蠑蠗蠓蠖襣襦覹觷譠譪譝譨譣譥譧譭趮躆躈躄轙轖轗轕轘轚" ++
      "邍酃酁醷醵醲醳鐋鐓鏻鐠鐏鐔鏾鐕鐐鐨鐙鐍鏵鐀鏷鐇鐎鐖鐒鏺鐉鏸鐊鏿"⟩,
    ⟨[0xF5], 0x40, "鏼鐌鏶鐑鐆闞闠闟霮霯鞹鞻韽韾顠顢顣顟飁飂饐饎饙饌饋饓騲騴騱騬騪騶" ++
      "騩騮騸騭髇髊髆鬐鬒鬑鰋鰈鯷鰅鰒鯸鱀鰇鰎鰆鰗鰔鰉鶟鶙鶤鶝鶒鶘鶐鶛\uFDD0" ++
      "\uFDD0\uFDD0\uFDD0\uFDD0\uFDD0\uFDD0\uFDD0\uFDD0\uFDD0\uFDD0\uFDD0\uFDD0\uFDD0\uFDD0\uFDD0\uFDD0\uFDD0\uFDD0\uFDD0\uFDD0\uFDD0\uFDD0\uFDD0\uFDD0\uFDD0\uFDD0\uFDD0\uFDD0\uFDD0\uFDD0\uFDD0\uFDD0" ++
      "\uFDD0鶠鶔鶜鶪鶗鶡鶚鶢鶨鶞鶣鶿鶩鶖鶦鶧麙麛麚黥黤黧黦鼰鼮齛齠齞齝齙龑" ++
      "儺儹劘劗囃嚽嚾孈孇巋巏廱懽攛欂櫼欃櫸欀灃灄灊灈灉灅灆爝爚爙獾甗癪" ++
      "矐礭礱礯籔籓糲纊纇纈纋纆纍罍羻耰臝蘘蘪蘦蘟蘣蘜蘙蘧蘮蘡蘠蘩蘞蘥"⟩,
    ⟨[0xF6], 0x40, "蠩蠝蠛蠠蠤蠜蠫衊襭襩襮襫觺譹譸譅譺譻贐贔趯躎躌轞轛轝酆酄酅醹鐿鐻" ++
      "鐶鐩鐽鐼鐰鐹鐪鐷鐬鑀鐱闥闤闣霵霺鞿韡顤飉飆飀饘饖騹騽驆驄驂驁騺\uFDD0" ++
      "\uFDD0\uFDD0\uFDD0\uFDD0\uFDD0\uFDD0\uFDD0\uFDD0\uFDD0\uFDD0\uFDD0\uFDD0\uFDD0\uFDD0\uFDD0\uFDD0\uFDD0\uFDD0\uFDD0\uFDD0\uFDD0\uFDD0\uFDD0\uFDD0\uFDD0\uFDD0\uFDD0\uFDD0\uFDD0\uFDD0\uFDD0\uFDD0" ++
      "\uFDD0騿髍鬕鬗鬘鬖鬺魒鰫鰝鰜鰬鰣鰨鰩鰤鰡鶷鶶鶼鷁鷇鷊鷏鶾鷅鷃鶻鶵鷎鶹" ++
      "鶺鶬鷈鶱鶭鷌鶳鷍鶲鹺麜黫黮黭鼛鼘鼚鼱齎齥齤龒亹囆囅囋奱孋孌巕巑廲" ++
      "攡攠攦攢欋欈欉氍灕灖灗灒爞爟犩獿瓘瓕瓙瓗癭皭礵禴穰穱籗籜籙籛籚"⟩,
    ⟨[0xF7], 0x40, "糴糱纑罏羇臞艫蘴蘵蘳蘬蘲蘶蠬蠨蠦蠪蠥襱覿覾觻譾讄讂讆讅譿贕躕躔躚" ++
      "躒躐躖躗轠轢酇鑌鑐鑊鑋鑏鑇鑅鑈鑉鑆霿韣顪顩飋饔饛驎驓驔驌驏驈驊\uFDD0" ++
      "\uFDD0\uFDD0\uFDD0\uFDD0\uFDD0\uFDD0\uFDD0\uFDD0\uFDD0\uFDD0\uFDD0\uFDD0\uFDD0\uFDD0\uFDD0\uFDD0\uFDD0\uFDD0\uFDD0\uFDD0\uFDD0\uFDD0\uFDD0\uFDD0\uFDD0\uFDD0\uFDD0\uFDD0\uFDD0\uFDD0\uFDD0\uFDD0" ++
      "\uFDD0驉驒驐髐鬙鬫鬻魖魕鱆鱈鰿鱄鰹鰳鱁鰼鰷鰴鰲鰽鰶鷛鷒鷞鷚鷋鷐鷜鷑鷟" ++
      "鷩鷙鷘鷖鷵鷕鷝麶黰鼵鼳鼲齂齫龕龢儽劙壨壧奲孍巘蠯彏戁戃戄攩攥斖曫" ++
      "欑欒欏毊灛灚爢玂玁玃癰矔籧籦纕艬蘺虀蘹蘼蘱蘻蘾蠰蠲蠮蠳襶襴襳觾"⟩,
    ⟨[0xF8], 0x40, "讌讎讋讈豅贙躘轤轣醼鑢鑕鑝鑗鑞韄韅頀驖驙鬞鬟鬠鱒鱘鱐鱊鱍鱋鱕鱙鱌" ++
      "鱎鷻鷷鷯鷣鷫鷸鷤鷶鷡鷮鷦鷲鷰鷢鷬鷴鷳鷨鷭黂黐黲黳鼆鼜鼸鼷鼶齃齏\uFDD0" ++
      "\uFDD0\uFDD0\uFDD0\uFDD0\uFDD0\uFDD0\uFDD0\uFDD0\uFDD0\uFDD0\uFDD0\uFDD0\uFDD0\uFDD0\uFDD0\uFDD0\uFDD0\uFDD0\uFDD0\uFDD0\uFDD0\uFDD0\uFDD0\uFDD0\uFDD0\uFDD0\uFDD0\uFDD0\uFDD0\uFDD0\uFDD0\uFDD0" ++
      "\uFDD0齱齰齮齯囓囍孎屭攭曭曮欓灟灡灝灠爣瓛瓥矕礸禷禶籪纗羉艭虃蠸蠷蠵" ++
      "衋讔讕躞躟躠躝醾醽釂鑫鑨鑩雥靆靃靇韇韥驞髕魙鱣鱧鱦鱢鱞鱠鸂鷾鸇鸃" ++
      "鸆鸅鸀鸁鸉鷿鷽鸄麠鼞齆齴齵齶囔攮斸欘欙欗欚灢爦犪矘矙礹籩籫糶纚"⟩,
    ⟨[0xF9], 0x40, "纘纛纙臠臡虆虇虈襹襺襼襻觿讘讙躥躤躣鑮鑭鑯鑱鑳靉顲饟鱨鱮鱭鸋鸍鸐" ++
      "鸏鸒鸑麡黵鼉齇齸齻齺齹圞灦籯蠼趲躦釃鑴鑸鑶鑵驠鱴鱳鱱鱵鸔鸓黶鼊\uFDD0" ++
      "\uFDD0\uFDD0\uFDD0\uFDD0\uFDD0\uFDD0\uFDD0\uFDD0\uFDD0\uFDD0\uFDD0\uFDD0\uFDD0\uFDD0\uFDD0\uFDD0\uFDD0\uFDD0\uFDD0\uFDD0\uFDD0\uFDD0\uFDD0\uFDD0\uFDD0\uFDD0\uFDD0\uFDD0\uFDD0\uFDD0\uFDD0\uFDD0" ++
      "\uFDD0龤灨灥糷虪蠾蠽蠿讞貜躩軉靋顳顴飌饡馫驤驦驧鬤鸕鸗齈戇欞爧虌躨钂" ++
      "钀钁驩驨鬮鸙爩虋讟钃鱹麷癵驫鱺鸝灩灪麤齾齉龘"⟩]

/-- Code page 950: Big5 with the additions of Microsoft. -/
def cp950 : PrefixCode :=
  big5.replacing "cp950" [
    ⟨[0xA1], 0x40, "\u3000，、。．‧；：？！︰…‥﹐﹑﹒·﹔﹕﹖﹗｜–︱—︳╴︴﹏（）︵" ++
      "︶｛｝︷︸〔〕︹︺【】︻︼《》︽︾〈〉︿﹀「」﹁﹂『』﹃﹄﹙﹚\uFDD0" ++
      "\uFDD0\uFDD0\uFDD0\uFDD0\uFDD0\uFDD0\uFDD0\uFDD0\uFDD0\uFDD0\uFDD0\uFDD0\uFDD0\uFDD0\uFDD0\uFDD0\uFDD0\uFDD0\uFDD0\uFDD0\uFDD0\uFDD0\uFDD0\uFDD0\uFDD0\uFDD0\uFDD0\uFDD0\uFDD0\uFDD0\uFDD0\uFDD0" ++
      "\uFDD0﹛﹜﹝﹞‘’“”〝〞‵′＃＆＊※§〃○●△▲◎☆★◇◆□■▽▼" ++
      "㊣℅¯￣＿ˍ﹉﹊﹍﹎﹋﹌﹟﹠﹡＋－×÷±√＜＞＝≦≧≠∞≒≡﹢﹣" ++
      "﹤﹥﹦～∩∪⊥∠∟⊿㏒㏑∫∮∵∴♀♂⊕⊙↑↓←→↖↗↙↘∥∣／"⟩,
    ⟨[0xA2], 0x40, "＼∕﹨＄￥〒￠￡％＠℃℉﹩﹪﹫㏕㎜㎝㎞㏎㎡㎎㎏㏄°兙兛兞兝兡兣嗧" ++
      "瓩糎▁▂▃▄▅▆▇█▏▎▍▌▋▊▉┼┴┬┤├▔─│▕┌┐└┘╭\uFDD0" ++
      "\uFDD0\uFDD0\uFDD0\uFDD0\uFDD0\uFDD0\uFDD0\uFDD0\uFDD0\uFDD0\uFDD0\uFDD0\uFDD0\uFDD0\uFDD0\uFDD0\uFDD0\uFDD0\uFDD0\uFDD0\uFDD0\uFDD0\uFDD0\uFDD0\uFDD0\uFDD0\uFDD0\uFDD0\uFDD0\uFDD0\uFDD0\uFDD0" ++
      "\uFDD0╮╰╯═╞╪╡◢◣◥◤╱╲╳０１２３４５６７８９ⅠⅡⅢⅣⅤⅥⅦ" ++
      "ⅧⅨⅩ〡〢〣〤〥〦〧〨〩十卄卅ＡＢＣＤＥＦＧＨＩＪＫＬＭＮＯＰＱ" ++
      "ＲＳＴＵＶＷＸＹＺａｂｃｄｅｆｇｈｉｊｋｌｍｎｏｐｑｒｓｔｕｖ"⟩,
    ⟨[0xA3], 0x40, "ｗｘｙｚΑΒΓΔΕΖΗΘΙΚΛΜΝΞΟΠΡΣΤΥΦΧΨΩαβγδ" ++
      "εζηθικλμνξοπρστυφχψωㄅㄆㄇㄈㄉㄊㄋㄌㄍㄎㄏ\uFDD0" ++
      "\uFDD0\uFDD0\uFDD0\uFDD0\uFDD0\uFDD0\uFDD0\uFDD0\uFDD0\uFDD0\uFDD0\uFDD0\uFDD0\uFDD0\uFDD0\uFDD0\uFDD0\uFDD0\uFDD0\uFDD0\uFDD0\uFDD0\uFDD0\uFDD0\uFDD0\uFDD0\uFDD0\uFDD0\uFDD0\uFDD0\uFDD0\uFDD0" ++
      "\uFDD0ㄐㄑㄒㄓㄔㄕㄖㄗㄘㄙㄚㄛㄜㄝㄞㄟㄠㄡㄢㄣㄤㄥㄦㄧㄨㄩ˙ˉˊˇˋ" ++
      "\uFDD0\uFDD0\uFDD0\uFDD0\uFDD0\uFDD0\uFDD0\uFDD0\uFDD0\uFDD0\uFDD0\uFDD0\uFDD0\uFDD0\uFDD0\uFDD0\uFDD0\uFDD0\uFDD0\uFDD0\uFDD0\uFDD0\uFDD0\uFDD0\uFDD0\uFDD0\uFDD0\uFDD0\uFDD0\uFDD0\uFDD0\uFDD0" ++
      "\uFDD0€"⟩,
    ⟨[0xF9], 0x40, "纘纛纙臠臡虆虇虈襹襺襼襻觿讘讙躥躤躣鑮鑭鑯鑱鑳靉顲饟鱨鱮鱭鸋鸍鸐" ++
      "鸏鸒鸑麡黵鼉齇齸齻齺齹圞灦籯蠼趲躦釃鑴鑸鑶鑵驠鱴鱳鱱鱵鸔鸓黶鼊\uFDD0" ++
      "\uFDD0\uFDD0\uFDD0\uFDD0\uFDD0\uFDD0\uFDD0\uFDD0\uFDD0\uFDD0\uFDD0\uFDD0\uFDD0\uFDD0\uFDD0\uFDD0\uFDD0\uFDD0\uFDD0\uFDD0\uFDD0\uFDD0\uFDD0\uFDD0\uFDD0\uFDD0\uFDD0\uFDD0\uFDD0\uFDD0\uFDD0\uFDD0" ++
      "\uFDD0龤灨灥糷虪蠾蠽蠿讞貜躩軉靋顳顴飌饡馫驤驦驧鬤鸕鸗齈戇欞爧虌躨钂" ++
      "钀钁驩驨鬮鸙爩虋讟钃鱹麷癵驫鱺鸝灩灪麤齾齉龘碁銹裏墻恒粧嫺╔╦╗" ++
      "╠╬╣╚╩╝╒╤╕╞╪╡╘╧╛╓╥╖╟╫╢╙╨╜║═╭╮╰╯▓"⟩]

/-- Big5-HKSCS: Big5 with the Hong Kong supplementary character set. -/
def big5hkscs : PrefixCode :=
  big5.replacing "big5hkscs" [
    ⟨[0x87], 0x40, "䏰䰲䘃䖦䕸𧉧䵷䖳𧲱䳢𧳅㮕䜶䝄䱇䱀𤊿𣘗𧍒𦺋𧃒䱗𪍑䝏䗚䲅𧱬䴇䪤䚡𦬣爥" ++
      "𥩔𡩣𣸆𣽡晍囻\uFDD0綕夝𨮹㷴霴𧯯寛𡵞媤㘥𩺰嫑宷峼杮薓𩥅瑡璝"⟩,
    ⟨[0x88], 0x40, "㇀㇁㇂㇃㇄𠄌㇅𠃑𠃍㇆㇇𠃋𡿨㇈𠃊㇉㇊㇋㇌𠄎㇍㇎ĀÁǍÀĒÉĚÈŌÓ" ++
      "ǑÒ\uFDD3Ế\uFDD3ỀÊāáǎàɑēéěèīíǐìōóǒòūúǔùǖǘǚ\uFDD0" ++
      "\uFDD0\uFDD0\uFDD0\uFDD0\uFDD0\uFDD0\uFDD0\uFDD0\uFDD0\uFDD0\uFDD0\uFDD0\uFDD0\uFDD0\uFDD0\uFDD0\uFDD0\uFDD0\uFDD0\uFDD0\uFDD0\uFDD0\uFDD0\uFDD0\uFDD0\uFDD0\uFDD0\uFDD0\uFDD0\uFDD0\uFDD0\uFDD0" ++
      "\uFDD0ǜü\uFDD3ế\uFDD3ềêɡ⏚⏛"⟩,
    ⟨[0x89], 0x40, "𪎩𡅅\uFDD0攊\uFDD0\uFDD0丽滝鵎釟\uFDD0\uFDD0𧜵撑会伨侨兖兴农凤务动医华发变团声处备夲" ++
      "头学实実岚庆总斉柾栄桥济炼电纤纬纺织经统缆缷艺苏药视设询车轧轮\uFDD0" ++
      "\uFDD0\uFDD0\uFDD0\uFDD0\uFDD0\uFDD0\uFDD0\uFDD0\uFDD0\uFDD0\uFDD0\uFDD0\uFDD0\uFDD0\uFDD0\uFDD0\uFDD0\uFDD0\uFDD0\uFDD0\uFDD0\uFDD0\uFDD0\uFDD0\uFDD0\uFDD0\uFDD0\uFDD0\uFDD0\uFDD0\uFDD0\uFDD0" ++
      "\uFDD0琑糼緍楆竉刧\uFDD0\uFDD0\uFDD0\uFDD0醌碸酞肼\uFDD0贋胶𠧧\uFDD0\uFDD0肟黇䳍鷉鸌䰾𩷶𧀎鸊𪄳㗁" ++
      "\uFDD0溚舾甙\uFDD0䤑马骏龙禇𨑬𡷊𠗐𢫦两亁亀亇亿仫伷㑌侽㹈倃傈㑽㒓㒥円夅凛" ++
      "凼刅争剹劐匧㗇厩㕑厰㕓参吣㕭㕲㚁咓咣咴咹哐哯唘唣唨㖘唿㖥㖿嗗㗅"⟩,
    ⟨[0x8A], 0x40, "𧶄唥\uFDD0𠱂𠴕𥄫喐𢳆㧬𠍁蹆𤶸𩓥䁓𨂾睺𢰸㨴䟕𨅝𦧲𤷪擝𠵼𠾴𠳕𡃴撍蹾𠺖𠰋𠽤" ++
      "𢲩𨉖𤓓\uFDD0𠵆𩩍𨃩䟴𤺧𢳂骲㩧𩗴㿭㔆𥋇𩟔𧣈𢵄鵮頕\uFDD0䏙𦂥撴哣𢵌𢯊𡁷㧻𡁯\uFDD0" ++
      "\uFDD0\uFDD0\uFDD0\uFDD0\uFDD0\uFDD0\uFDD0\uFDD0\uFDD0\uFDD0\uFDD0\uFDD0\uFDD0\uFDD0\uFDD0\uFDD0\uFDD0\uFDD0\uFDD0\uFDD0\uFDD0\uFDD0\uFDD0\uFDD0\uFDD0\uFDD0\uFDD0\uFDD0\uFDD0\uFDD0\uFDD0\uFDD0" ++
      "\uFDD0𦛚𦜖𧦠擪𥁒𠱃蹨𢆡𨭌𠜱\uFDD0䠋𠆩㿺塳𢶍\uFDD0𤗈𠓼𦂗𠽌𠶖啹䂻䎺\uFDD0䪴𢩦𡂝膪飵" ++
      "𠶜捹㧾𢝵跀嚡摼㹃\uFDD0𪘁𠸉𢫏𢳉\uFDD0𡃈𣧂㦒㨆𨊛㕸𥹉𢃇噒𠼱𢲲𩜠㒼氽𤸻\uFDD0\uFDD0𧕴" ++
      "𢺋𢈈𪙛𨳍𠹺𠰴𦠜羓𡃏𢠃𢤹㗻𥇣𠺌𠾍𠺪㾓𠼰𠵇𡅏𠹌\uFDD0𠺫𠮩𠵈𡃀𡄽㿹𢚖搲𠾭"⟩,
    ⟨[0x8B], 0x40, "𣏴𧘹𢯎𠵾𠵿𢱑𢱕㨘𠺘𡃇𠼮𪘲𦭐𨳒𨶙𨳊閪哌苄喹\uFDD0𩻃鰦骶𧝞𢷮煀腭胬尜𦕲脴" ++
      "㞗卟𨂽醶𠻺𠸏𠹷𠻻㗝𤷫㘉𠳖嚯𢞵𡃉𠸐𠹸𡁸𡅈𨈇𡑕𠹹𤹐𢶤婔𡀝𡀞𡃵𡃶垜𠸑\uFDD0" ++
      "\uFDD0\uFDD0\uFDD0\uFDD0\uFDD0\uFDD0\uFDD0\uFDD0\uFDD0\uFDD0\uFDD0\uFDD0\uFDD0\uFDD0\uFDD0\uFDD0\uFDD0\uFDD0\uFDD0\uFDD0\uFDD0\uFDD0\uFDD0\uFDD0\uFDD0\uFDD0\uFDD0\uFDD0\uFDD0\uFDD0\uFDD0\uFDD0" ++
      "\uFDD0𧚔𨋍𠾵𠹻𥅾㜃𠾶𡆀𥋘𪊽𤧚𡠺𤅷𨉼墙剨㘚𥜽箲孨䠀䬬鼧䧧鰟鮍𥭴𣄽嗻㗲嚉" ++
      "丨夂𡯁屮靑𠂆乛亻㔾尣彑忄㣺扌攵歺氵氺灬爫丬犭𤣩罒礻糹罓𦉪㓁\uFDD0𦍋耂" ++
      "肀𦘒𦥑卝衤见𧢲讠贝钅镸长门𨸏韦页风飞饣𩠐鱼鸟黄歯龜丷𠂇阝户钢"⟩,
    ⟨[0x8C], 0x40, "倻淾𩱳龦㷉袏𤅎灷峵䬠𥇍㕙𥴰愢𨨲辧釶熑朙玺𣊁𪄇㲋𡦀䬐磤琂冮𨜏䀉橣𪊺" ++
      "䈣蘏𠩯稪𩥇𨫪靕灍匤𢁾鏴盙𨧣龧矝亣俰傼丯众龨吴綋墒壐𡶶庒庙忂𢜒斋\uFDD0" ++
      "\uFDD0\uFDD0\uFDD0\uFDD0\uFDD0\uFDD0\uFDD0\uFDD0\uFDD0\uFDD0\uFDD0\uFDD0\uFDD0\uFDD0\uFDD0\uFDD0\uFDD0\uFDD0\uFDD0\uFDD0\uFDD0\uFDD0\uFDD0\uFDD0\uFDD0\uFDD0\uFDD0\uFDD0\uFDD0\uFDD0\uFDD0\uFDD0" ++
      "\uFDD0𣏹椙橃𣱣泿\uFDD0爀𤔅玌㻛𤨓嬕璹讃𥲤𥚕窓篬糃繬苸薗龩袐龪躹龫迏蕟駠鈡" ++
      "龬𨶹𡐿䁱䊢娚\uFDD0\uFDD0\uFDD0顨杫䉶圽\uFDD0藖𤥻芿𧄍䲁𦵴嵻𦬕𦾾龭龮宖龯曧繛湗秊㶈" ++
      "䓃𣉖𢞖䎚䔶\uFDD0峕𣬚諹屸㴒𣕑嵸龲煗䕘𤃬𡸣䱷㥸㑊𠆤𦱁諌侴𠈹妿腬顖𩣺弻"⟩,
    ⟨[0x8D], 0x40, "𠮟\uFDD0𢇁𨥭䄂䚻𩁹㼇龳𪆵䃸㟖䛷𦱆䅼𨚲𧏿䕭㣔𥒚䕡䔛䶉䱻䵶䗪㿈𤬏㙡䓞䒽䇭" ++
      "崾嵈嵖㷼㠏嶤嶹㠠㠸幂庽弥徃㤈㤔㤿㥍惗愽峥㦉憷憹懏㦸戬抐拥挘㧸嚱\uFDD0" ++
      "\uFDD0\uFDD0\uFDD0\uFDD0\uFDD0\uFDD0\uFDD0\uFDD0\uFDD0\uFDD0\uFDD0\uFDD0\uFDD0\uFDD0\uFDD0\uFDD0\uFDD0\uFDD0\uFDD0\uFDD0\uFDD0\uFDD0\uFDD0\uFDD0\uFDD0\uFDD0\uFDD0\uFDD0\uFDD0\uFDD0\uFDD0\uFDD0" ++
      "\uFDD0㨃揢揻搇摚㩋擀崕嘡龟㪗斆㪽旿晓㫲暒㬢朖㭂枤栀㭘桊梄㭲㭱㭻椉楃牜" ++
      "楤榟榅㮼槖㯝橥橴橱檂㯬檙㯲檫檵櫔櫶殁毁毪汵沪㳋洂洆洦涁㳯涤涱渕渘" ++
      "温溆𨧀溻滢滚齿滨滩漤漴㵆𣽁澁澾㵪㵵熷岙㶊瀬㶑灐灔灯灿炉𠌥䏁㗱𠻘"⟩,
    ⟨[0x8E], 0x40, "𣻗垾𦻓焾𥟠㙎榢𨯩孴穉𥣡𩓙穥穽𥦬窻窰竂竃燑𦒍䇊竚竝竪䇯咲𥰁笋筕笩𥌎" ++
      "𥳾箢筯莜𥮴𦱿篐萡箒\uFDD0𥴠㶭𥱥蒒篺\uFDD0簵𥳁籄粃𤢂粦晽𤕸糉糇糦籴糳糵\uFDD0\uFDD0" ++
      "\uFDD0\uFDD0\uFDD0\uFDD0\uFDD0\uFDD0\uFDD0\uFDD0\uFDD0\uFDD0\uFDD0\uFDD0\uFDD0\uFDD0\uFDD0\uFDD0\uFDD0\uFDD0\uFDD0\uFDD0\uFDD0\uFDD0\uFDD0\uFDD0\uFDD0\uFDD0\uFDD0\uFDD0\uFDD0\uFDD0\uFDD0\uFDD0" ++
      "\uFDD0繧䔝𦹄絝𦻖璍綉綫焵綳\uFDD0𤁗𦀩緤㴓緵𡟹緥𨍭\uFDD0𦄡𦅚繮纒䌫鑬縧罀罁罇礶" ++
      "𦋐駡羗𦍑羣𡙡𠁨䕜𣝦䔃𨌺翺𦒉\uFDD0耈耝\uFDD0耯𪂇𦳃耻耼聡𢜔䦉𦘦𣷣𦛨朥肧𨩈脇" ++
      "脚墰𢛶汿𦒘𤾸擧𡒊舘𡡞橓𤩥𤪕䑺舩𠬍𦩒𣵾俹𡓽蓢荢𦬊𤦧𣔰𡝳𣷸芪椛芳䇛"⟩,
    ⟨[0x8F], 0x40, "蕋苐茚𠸖𡞴㛁𣅽𣕚艻苢茘𣺋𦶣𦬅𦮗𣗎㶿茝嗬莅䔋𦶥莬\uFDD0菓㑾𦻔橗蕚㒖𦹂𢻯" ++
      "葘𥯤葱㷓䓤檧葊𣲵祘\uFDD0𦮖𦹷𦹃蓞\uFDD0莑䒠蒓蓤𥲑䉀𥳀䕃蔴嫲𦺙䔧蕳䔖枿蘖\uFDD0" ++
      "\uFDD0\uFDD0\uFDD0\uFDD0\uFDD0\uFDD0\uFDD0\uFDD0\uFDD0\uFDD0\uFDD0\uFDD0\uFDD0\uFDD0\uFDD0\uFDD0\uFDD0\uFDD0\uFDD0\uFDD0\uFDD0\uFDD0\uFDD0\uFDD0\uFDD0\uFDD0\uFDD0\uFDD0\uFDD0\uFDD0\uFDD0\uFDD0" ++
      "\uFDD0𨘥𨘻藁𧂈蘂𡖂𧃍䕫䕪蘨㙈𡢢号𧎚虾蝱𪃸蟮𢰧螱蟚蠏噡虬桖䘏衅衆𧗠𣶹𧗤" ++
      "衞袜䙛袴袵揁装睷𧜏覇覊\uFDD0\uFDD0覧覼𨨥觧𧤤𧪽誜瞓釾誐𧩙竩𧬺𣾏䜓𧬸煼謌謟" ++
      "𥐰𥕥謿譌譍誩𤩺讐讛誯𡛟䘕衏貛𧵔𧶏貫㜥𧵓賖𧶘𧶽贒贃𡤐賛灜贑𤳉㻐"⟩,
    ⟨[0x90], 0x40, "趩𨀂𡀔𤦊㭼𨆼𧄌竧躭躶軃鋔輙輭𨍥𨐒辥錃𪊟𠩐辳䤪𨧞𨔽𣶻廸𣉢迹𪀔𨚼𨔁𢌥" ++
      "㦀𦻗逷𨔼𧪾遡𨕬𨘋邨𨜓郄𨛦邮\uFDD0酧㫰醩釄粬𨤳𡺉鈎沟鉁鉢𥖹\uFDD0𨫆𣲛𨬌𥗛\uFDD0" ++
      "\uFDD0\uFDD0\uFDD0\uFDD0\uFDD0\uFDD0\uFDD0\uFDD0\uFDD0\uFDD0\uFDD0\uFDD0\uFDD0\uFDD0\uFDD0\uFDD0\uFDD0\uFDD0\uFDD0\uFDD0\uFDD0\uFDD0\uFDD0\uFDD0\uFDD0\uFDD0\uFDD0\uFDD0\uFDD0\uFDD0\uFDD0\uFDD0" ++
      "\uFDD0𠴱錬鍫𨫡𨯫炏嫃𨫢𨫥䥥鉄𨯬𨰹𨯿鍳鑛躼閅閦鐦閠濶䊹𢙺𨛘𡉼𣸮䧟氜陻隖" ++
      "䅬隣𦻕懚隶磵𨫠隽双䦡𦲸𠉴𦐐𩂯𩃥𤫑𡤕𣌊霱虂霶䨏䔽䖅𤫩灵孁霛\uFDD0𩇕靗孊" ++
      "𩇫靟鐥僐𣂷𣂼鞉鞟鞱鞾韀韒韠𥑬韮琜𩐳\uFDD0韵𩐝𧥺䫑頴頳顋顦㬎𧅵㵑𠘰𤅜"⟩,
    ⟨[0x91], 0x40, "𥜆飊颷飈飇䫿𦴧𡛓喰飡飦飬鍸餹𤨩䭲𩡗𩤅駵騌騻騐驘𥜥㛄𩂱𩯕髠髢𩬅髴䰎" ++
      "鬔鬭𨘀倴鬴𦦨㣃𣁽魐魀𩴾婅𡡣鮎𤉋鰂鯿鰌𩹨鷔𩾷𪆒𪆫𪃡𪄣𪇟鵾鶃𪄴鸎梈\uFDD0" ++
      "\uFDD0\uFDD0\uFDD0\uFDD0\uFDD0\uFDD0\uFDD0\uFDD0\uFDD0\uFDD0\uFDD0\uFDD0\uFDD0\uFDD0\uFDD0\uFDD0\uFDD0\uFDD0\uFDD0\uFDD0\uFDD0\uFDD0\uFDD0\uFDD0\uFDD0\uFDD0\uFDD0\uFDD0\uFDD0\uFDD0\uFDD0\uFDD0" ++
      "\uFDD0鷄𢅛𪆓𪈠𡤻𪈳鴹𪂹𪊴麐麕麞麢䴴麪麯𤍤黁㭠㧥㴝伲㞾𨰫鼂鼈䮖鐤𦶢鼗\uFDD0" ++
      "鼹嚟嚊齅馸𩂋韲葿齢齩竜龎爖䮾𤥵𤦻煷𤧸𤍈𤩑玞𨯚𡣺禟𨥾𨸶鍩鏳𨩄鋬鎁鏋" ++
      "𨥬𤒹爗㻫睲穃烐𤑳𤏸煾𡟯炣𡢾𣖙㻇𡢅𥐯𡟸㜢𡛻𡠹㛡𡝴𡣑𥽋㜣𡛀坛𤨥𡏾𡊨"⟩,
    ⟨[0x92], 0x40, "𡏆𡒶蔃𣚦\uFDD0葕𤦔𧅥𣸱𥕜𣻻𧁒䓴𣛮𩦝𦼦柹㜳㰕㷧塬𡤢栐䁗𣜿𤃡𤂋𤄏𦰡哋嚞𦚱" ++
      "嚒𠿟𠮨𠸍鏆𨬓鎜仸儫㠙𤐶亼𠑥𠍿佋侊𥙑婨𠆫𠏋㦙𠌊𠐔㐵伩𠋀𨺳𠉵諚𠈌亘\uFDD0" ++
      "\uFDD0\uFDD0\uFDD0\uFDD0\uFDD0\uFDD0\uFDD0\uFDD0\uFDD0\uFDD0\uFDD0\uFDD0\uFDD0\uFDD0\uFDD0\uFDD0\uFDD0\uFDD0\uFDD0\uFDD0\uFDD0\uFDD0\uFDD0\uFDD0\uFDD0\uFDD0\uFDD0\uFDD0\uFDD0\uFDD0\uFDD0\uFDD0" ++
      "\uFDD0働儍侢伃𤨎𣺊佂倮偬傁俌俥偘僼\uFDD0\uFDD0\uFDD0\uFDD0湶𣖕𣸹𣺿浲𡢄𣺉冨凃𠗠䓝𠒣𠒒" ++
      "𠒑赺𨪜𠜎剙劤𠡳勡\uFDD0䙺熌𤎌𠰠𤦬𡃤槑𠸝\uFDD0㻞璙琔瑖玘䮎𤪼𤂍叐㖄爏𤃉喴𠍅" ++
      "响𠯆圝鉝雴鍦埝垍坿㘾壋媙𨩆𡛺𡝯𡜐娬妸銏婾嫏娒𥥆𡧳𡡡𤊕㛵洅瑃娡𥺃"⟩,
    ⟨[0x93], 0x40, "媁𨯗𠐓鏠璌𡌃焅䥲鐈𨧻鎽㞠尞岞幞幈𡦖𡥼𣫮廍孏𡤃𡤄㜁𡢠㛝𡛾㛓脪𨩇𡶺𣑲" ++
      "𨦨弌弎𡤧𡞫婫𡜻孄蘔𧗽衠恾𢡠𢘫忛㺸𢖯𢖾𩂈𦽳懀𠀾𠁆𢘛憙憘恵𢲛𢴇𤛔𩅍\uFDD0" ++
      "\uFDD0\uFDD0\uFDD0\uFDD0\uFDD0\uFDD0\uFDD0\uFDD0\uFDD0\uFDD0\uFDD0\uFDD0\uFDD0\uFDD0\uFDD0\uFDD0\uFDD0\uFDD0\uFDD0\uFDD0\uFDD0\uFDD0\uFDD0\uFDD0\uFDD0\uFDD0\uFDD0\uFDD0\uFDD0\uFDD0\uFDD0\uFDD0" ++
      "\uFDD0摱𤙥𢭪㨩𢬢𣑐𩣪𢹸挷𪑛撶挱揑𤧣𢵧护𢲡搻敫楲㯴𣂎𣊭𤦉𣊫唍𣋠𡣙𩐿曎𣊉" ++
      "𣆳㫠䆐𥖄𨬢𥖏𡛼𥕛𥐥磮𣄃𡠪𣈴㑤𣈏𣆂𤋉暎𦴤晫䮓昰𧡰𡷫晣𣋒𣋡昞𥡲㣑𣠺𣞼" ++
      "㮙𣞢𣏾瓐㮖枏𤘪梶栞㯄檾㡣𣟕𤒇樳橒櫉欅𡤒攑梘橌㯗橺歗𣿀𣲚鎠鋲𨯪𨫋"⟩,
    ⟨[0x94], 0x40, "銉𨀞𨧜鑧涥漋𤧬\uFDD0𣽿㶏渄𤀼娽渊塇洤硂焻𤌚𤉶烱牐犇犔𤞏𤜥兹𤪤𠗫瑺𣻸𣙟" ++
      "𤩊𤤗𥿡㼆㺱𤫟𨰣𣼵悧㻳瓌琼鎇琷䒟𦷪䕑疃㽣𤳙𤴆㽘畕癳𪗆㬙瑨𨫌𤦫𤦎㫻\uFDD0" ++
      "\uFDD0\uFDD0\uFDD0\uFDD0\uFDD0\uFDD0\uFDD0\uFDD0\uFDD0\uFDD0\uFDD0\uFDD0\uFDD0\uFDD0\uFDD0\uFDD0\uFDD0\uFDD0\uFDD0\uFDD0\uFDD0\uFDD0\uFDD0\uFDD0\uFDD0\uFDD0\uFDD0\uFDD0\uFDD0\uFDD0\uFDD0\uFDD0" ++
      "\uFDD0㷍𤩎㻿𤧅𤣳釺圲鍂𨫣𡡤僟𥈡𥇧睸𣈲眎眏睻𤚗𣞁㩞𤣰琸璛㺿𤪺𤫇䃈𤪖𦆮錇" ++
      "𥖁砞碍碈磒珐祙𧝁𥛣䄎\uFDD0蒖禥樭𣻺稺秴䅮𡛦䄲鈵秱𠵌𤦌𠊙𣶺𡝮㖗啫㕰㚪𠇔" ++
      "𠰍竢婙𢛵𥪯𥪜娍𠉛磰娪𥯆竾䇹籝籭䈑𥮳𥺼𥺦糍𤧹𡞰粎籼粮檲緜縇緓罎𦉡"⟩,
    ⟨[0x95], 0x40, "𦅜𧭈綗𥺂䉪𦭵𠤖柖𠁎𣗏埄𦐒𦏸𤥢翝笧𠠬𥫩𥵃笌𥸎駦虅驣樜𣐿㧢𤧷𦖭騟𦖠蒀" ++
      "𧄧𦳑䓪脷䐂胆脉腂𦞴飃𦩂艢艥𦩑葓𦶧蘐𧈛媆䅿𡡀嬫𡢡嫤𡣘蚠蜨𣶏蠭𧐢娂\uFDD0" ++
      "\uFDD0\uFDD0\uFDD0\uFDD0\uFDD0\uFDD0\uFDD0\uFDD0\uFDD0\uFDD0\uFDD0\uFDD0\uFDD0\uFDD0\uFDD0\uFDD0\uFDD0\uFDD0\uFDD0\uFDD0\uFDD0\uFDD0\uFDD0\uFDD0\uFDD0\uFDD0\uFDD0\uFDD0\uFDD0\uFDD0\uFDD0\uFDD0" ++
      "\uFDD0衮佅袇袿裦襥襍𥚃襔𧞅𧞄𨯵𨯙𨮜𨧹㺭蒣䛵䛏㟲訽訜𩑈彍鈫𤊄旔焩烄𡡅鵭" ++
      "貟賩𧷜妚矃姰䍮㛔踪躧𤰉輰轊䋴汘澻𢌡䢛潹溋𡟚鯩㚵𤤯邻\uFDD0啱䤆醻鐄𨩋䁢" ++
      "𨫼鐧𨰝𨰻蓥訫閙閧閗閖𨴴瑅㻂𤣿𤩂𤏪㻧𣈥随𨻧𨹦𨹥㻌𤧭𤩸𣿮琒瑫㻼靁𩂰"⟩,
    ⟨[0x96], 0x40, "桇䨝𩂓𥟟\uFDD0鍨𨦉𨰦𨬯𦎾銺嬑譩䤼珹𤈛鞛靱餸𠼦巁𨯅𤪲頟𩓚鋶𩗗釥䓀𨭐𤩧𨭤" ++
      "飜𨩅㼀鈪䤥萔餻饍𧬆㷽馛䭯馪驜𨭥𥣈檏騡嫾騯𩣱䮐𩥈馼䮽䮗鍽塲𡌂堢𤦸\uFDD0" ++
      "\uFDD0\uFDD0\uFDD0\uFDD0\uFDD0\uFDD0\uFDD0\uFDD0\uFDD0\uFDD0\uFDD0\uFDD0\uFDD0\uFDD0\uFDD0\uFDD0\uFDD0\uFDD0\uFDD0\uFDD0\uFDD0\uFDD0\uFDD0\uFDD0\uFDD0\uFDD0\uFDD0\uFDD0\uFDD0\uFDD0\uFDD0\uFDD0" ++
      "\uFDD0𡓨硄𢜟𣶸棅㵽鑘㤧慐𢞁𢥫愇鱏鱓鱻鰵鰐魿鯏𩸭鮟𪇵𪃾鴡䲮𤄄鸘䲰鴌𪆴𪃭" ++
      "𪃳𩤯鶥蒽𦸒𦿟𦮂藼䔳𦶤𦺄𦷰萠藮𦸀𣟗𦁤秢𣖜𣙀䤭𤧞㵢鏛銾鍈𠊿碹鉷鑍俤㑀" ++
      "遤𥕝砽硔碶硋𡝗𣇉𤥁㚚佲濚濙\uFDD0瀞吔𤆵垻壳垊鴖埗焴㒯𤆬燫𦱀𤾗\uFDD0𡞵𨩉"⟩,
    ⟨[0x97], 0x40, "愌嫎娋䊼𤒈㜬䭻𨧼鎻鎸𡣖𠼝葲𦳀𡐓𤋺𢰦𤏁妔𣶷𦝁綨𦅛𦂤𤦹𤦋𨧺鋥珢㻩璴𨭣" ++
      "𡢟㻡𤪳櫘珳珻㻖𤨾𤪔𡟙𤩦𠎧𡐤𤧥瑈𤤖炥𤥶銄珦鍟𠓾錱𨫎𨨖鎆𨯧𥗕䤵𨪂煫\uFDD0" ++
      "\uFDD0\uFDD0\uFDD0\uFDD0\uFDD0\uFDD0\uFDD0\uFDD0\uFDD0\uFDD0\uFDD0\uFDD0\uFDD0\uFDD0\uFDD0\uFDD0\uFDD0\uFDD0\uFDD0\uFDD0\uFDD0\uFDD0\uFDD0\uFDD0\uFDD0\uFDD0\uFDD0\uFDD0\uFDD0\uFDD0\uFDD0\uFDD0" ++
      "\uFDD0𤥃𠳿嚤𠘚𠯫𠲸唂秄𡟺緾𡛂𤩐𡡒䔮鐁㜊𨫀𤦭妰𡢿𡢃𧒄媡㛢𣵛㚰鉟婹𨪁𡡢鍴" ++
      "㳍𠪴䪖㦊僴㵩㵌𡎜煵䋻𨈘渏𩃤䓫浗𧹏灧沯㳖𣿭𣸭渂漌㵯𠏵畑㚼㓈䚀㻚䡱姄" ++
      "鉮䤾轁𨰜𦯀堒埈㛖𡑒烾𤍢𤩱𢿣𡊰𢎽梹楧𡎘𣓥𧯴𣛟𨪃𣟖𣏺𤲟樚𣚭𦲷萾䓟䓎"⟩,
    ⟨[0x98], 0x40, "𦴦𦵑𦲂𦿞漗𧄉茽𡜺菭𦲀𧁓𡟛妉媂𡞳婡婱𡤅𤇼㜭姯𡜼㛇熎鎐暚𤊥婮娫𤊓樫𣻹" ++
      "𧜶𤑛𤋊焝𤉙𨧡侰𦴨峂𤓎𧹍𤎽樌𤉖𡌄炦焳𤏩㶥泟勇𤩏繥姫崯㷳彜𤩝𡟟綤萦\uFDD0" ++
      "\uFDD0\uFDD0\uFDD0\uFDD0\uFDD0\uFDD0\uFDD0\uFDD0\uFDD0\uFDD0\uFDD0\uFDD0\uFDD0\uFDD0\uFDD0\uFDD0\uFDD0\uFDD0\uFDD0\uFDD0\uFDD0\uFDD0\uFDD0\uFDD0\uFDD0\uFDD0\uFDD0\uFDD0\uFDD0\uFDD0\uFDD0\uFDD0" ++
      "\uFDD0咅𣫺𣌀𠈔坾𠣕𠘙㿥𡾞𪊶瀃𩅛嵰玏糓𨩙𩐠俈翧狍猐𧫴猸猹𥛶獁獈㺩𧬘遬燵" ++
      "𤣲珡臶㻊県㻑沢国琙琞琟㻢㻰㻴㻺瓓㼎㽓畂畭畲疍㽼痈痜㿀癍㿗癴㿜発𤽜" ++
      "熈嘣覀塩䀝睃䀹条䁅㗛瞘䁪䁯属瞾矋売砘点砜䂨砹硇硑硦葈𥔵礳栃礲䄃"⟩,
    ⟨[0x99], 0x40, "䄉禑禙辻稆込䅧窑䆲窼艹䇄竏竛䇏両筢筬筻簒簛䉠䉺类粜䊌粸䊔糭输烀𠳏" ++
      "総緔緐緽羮羴犟䎗耠耥笹耮耱联㷌垴炠肷胩䏭脌猪脎脒畠脔䐁㬹腖腙腚\uFDD0" ++
      "\uFDD0\uFDD0\uFDD0\uFDD0\uFDD0\uFDD0\uFDD0\uFDD0\uFDD0\uFDD0\uFDD0\uFDD0\uFDD0\uFDD0\uFDD0\uFDD0\uFDD0\uFDD0\uFDD0\uFDD0\uFDD0\uFDD0\uFDD0\uFDD0\uFDD0\uFDD0\uFDD0\uFDD0\uFDD0\uFDD0\uFDD0\uFDD0" ++
      "\uFDD0䐓堺腼膄䐥膓䐭膥埯臁臤艔䒏芦艶苊苘苿䒰荗险榊萅烵葤惣蒈䔄蒾蓡蓸" ++
      "蔐蔸蕒䔻蕯蕰藠䕷虲蚒蚲蛯际螋䘆䘗袮裿褤襇覑𧥧訩訸誔誴豑賔賲贜䞘塟" ++
      "跃䟭仮踺嗘坔蹱嗵躰䠷軎転軤軭軲辷迁迊迌逳駄䢭飠鈓䤞鈨鉘鉫銱銮銿"⟩,
    ⟨[0x9A], 0x40, "鋣鋫鋳鋴鋽鍃鎄鎭䥅䥑麿鐗匁鐝鐭鐾䥪鑔鑹锭関䦧间阳䧥枠䨤靀䨵鞲韂噔" ++
      "䫤惨颹䬙飱塄餎餙冴餜餷饂饝饢䭰駅䮝騼鬏窃魩鮁鯝鯱鯴䱭鰠㝯𡯂鵉鰺\uFDD0" ++
      "\uFDD0\uFDD0\uFDD0\uFDD0\uFDD0\uFDD0\uFDD0\uFDD0\uFDD0\uFDD0\uFDD0\uFDD0\uFDD0\uFDD0\uFDD0\uFDD0\uFDD0\uFDD0\uFDD0\uFDD0\uFDD0\uFDD0\uFDD0\uFDD0\uFDD0\uFDD0\uFDD0\uFDD0\uFDD0\uFDD0\uFDD0\uFDD0" ++
      "\uFDD0黾噐鶓鶽鷀鷼银辶鹻麬麱麽黆铜黢黱黸竈齄𠂔𠊷𠎠椚铃妬𠓗塀铁㞹𠗕𠘕" ++
      "𠙶𡚺块煳𠫂𠫍𠮿呪吆𠯋咞𠯻𠰻𠱓𠱥𠱼惧𠲍噺𠲵𠳝𠳭𠵯𠶲𠷈楕鰯螥𠸄𠸎𠻗𠾐" ++
      "𠼭𠹳尠𠾼帋𡁜𡁏𡁶朞𡁻𡂈𡂖㙇𡂿𡃓𡄯𡄻卤蒭𡋣𡍵𡌶讁𡕷𡘙𡟃𡟇乸炻𡠭𡥪"⟩,
    ⟨[0x9B], 0x40, "𡨭𡩅𡰪𡱰𡲬𡻈拃𡻕𡼕熘桕𢁅槩㛈𢉼𢏗𢏺𢜪𢡱𢥏苽𢥧𢦓𢫕覥𢫨辠𢬎鞸𢬿顇骽" ++
      "𢱌\uFDD0𢲈𢲷𥯨𢴈𢴒𢶷𢶕𢹂𢽴𢿌𣀳𣁦𣌟𣏞徱晈暿𧩹𣕧𣗳\uFDD0𤦺\uFDD0𣘚𣜖\uFDD0𠍆墵朎\uFDD0" ++
      "\uFDD0\uFDD0\uFDD0\uFDD0\uFDD0\uFDD0\uFDD0\uFDD0\uFDD0\uFDD0\uFDD0\uFDD0\uFDD0\uFDD0\uFDD0\uFDD0\uFDD0\uFDD0\uFDD0\uFDD0\uFDD0\uFDD0\uFDD0\uFDD0\uFDD0\uFDD0\uFDD0\uFDD0\uFDD0\uFDD0\uFDD0\uFDD0" ++
      "\uFDD0椘𣪧𧙗𥿢𣸑𣺹𧗾𢂚䣐䪸𤄙𨪚𤋮𤌍𤀻𤌴𤎖𤩅𠗊凒𠘑妟𡺨㮾𣳿𤐄𤓖垈𤙴㦛𤜯" ++
      "𨗨𩧉㝢𢇃譞𨭎\uFDD0𤠒𤣻𤨕爉𤫀𠱸奥𤺥𤾆𠝹軚𥀬劏圿煱𥊙𥐙𣽊𤪧喼𥑆𥑮𦭒\uFDD0㑳" ++
      "𥔿𧘲𥕞䜘𥕢𥕦𥟇𤤿𥡝偦㓻𣏌\uFDD0𥤃䝼𨥈𥪮𥮉𥰆𡶐垡煑\uFDD0𦄂𧰒遖𦆲𤾚譢𦐂𦑊"⟩,
    ⟨[0x9C], 0x40, "嵛𦯷\uFDD0𦒄𡤜諪𤧶𦒈𣿯𦔒䯀𦖿𦚵𢜛鑥𥟡憕娧晉\uFDD0嚹𤔡𦛼乪𤤴陖涏𦲽㘘襷𦞙𦡮" ++
      "𦐑𦡞\uFDD0𦣇筂𩃀𠨑𦤦\uFDD0𦤹穅\uFDD0𦧺騦𦨭㙟𦑩𠀡禃𦨴𦭛崬𣔙\uFDD0𦮝䛐𦲤画补𦶮墶\uFDD0" ++
      "\uFDD0\uFDD0\uFDD0\uFDD0\uFDD0\uFDD0\uFDD0\uFDD0\uFDD0\uFDD0\uFDD0\uFDD0\uFDD0\uFDD0\uFDD0\uFDD0\uFDD0\uFDD0\uFDD0\uFDD0\uFDD0\uFDD0\uFDD0\uFDD0\uFDD0\uFDD0\uFDD0\uFDD0\uFDD0\uFDD0\uFDD0\uFDD0" ++
      "\uFDD0㜜𢖍𧁋𧇍㱔𧊀𧊅銁𢅺𧊋錰𧋦𤧐氹钟𧑐𠻸蠧裵𢤦𨑳𡞱溸𤨪𡠠㦤㚹\uFDD0\uFDD0䔿暶" ++
      "𩲭𩢤襃𧟌𧡘囖䃟𡘊㦡𣜯𨃨𡏅熭荦𧧝𩆨\uFDD0䲷𧂯𨦫𧧽𧨊𧬋𧵦𤅺筃祾𨀉澵𪋟樃𨌘" ++
      "厢𦸇鎿栶靝𨅯𨀣𦦵𡏭𣈯𨁈嶅𨰰𨂃圕頣𨥉嶫𤦈斾槕叒𤪥𣾁㰑朶𨂐𨃴𨄮𡾡𨅏"⟩,
    ⟨[0x9D], 0x40, "𨆉𨆯𨈚𨌆𨌯𨎊㗊𨑨𨚪䣺揦𨥖砈鉕𨦸䏲𨧧䏟𨧨𨭆𨯔姸𨰉\uFDD0𨿅𩃬\uFDD0𩄐𩄼㷷𩅞𤫊" ++
      "运犏嚋𩓧𩗩𩖰𩖸𩜲𩣑𩥉𩥪𩧃𩨨𩬎𩵚𩶛纟𩻸𩼣䲤镇𪊓熢𪋿䶑递𪗋䶜𠲜达嗁\uFDD0" ++
      "\uFDD0\uFDD0\uFDD0\uFDD0\uFDD0\uFDD0\uFDD0\uFDD0\uFDD0\uFDD0\uFDD0\uFDD0\uFDD0\uFDD0\uFDD0\uFDD0\uFDD0\uFDD0\uFDD0\uFDD0\uFDD0\uFDD0\uFDD0\uFDD0\uFDD0\uFDD0\uFDD0\uFDD0\uFDD0\uFDD0\uFDD0\uFDD0" ++
      "\uFDD0辺𢒰边𤪓䔉繿潖檱仪㓤𨬬𧢝㜺躀𡟵𨀤𨭬𨮙𧨾𦚯㷫𧙕𣲷𥘵𥥖亚𥺁𦉘嚿𠹭踎" ++
      "孭𣺈𤲞揞\uFDD0𡟶𡡻攰嘭𥱊吚𥌑㷆𩶘䱽嘢嘞罉𥻘奵𣵀蝰东𠿪𠵉𣚺脗鵞贘瘻鱅癎" ++
      "瞹鍅吲腈苷嘥脲萘肽嗪祢噃吖𠺝㗎嘅嗱曱𨋢㘭甴嗰喺咗啲𠱁𠲖廐𥅈𠹶𢱢"⟩,
    ⟨[0x9E], 0x40, "𠺢麫絚嗞𡁵抝靭咔賍燶酶揼掹揾啩𢭃鱲𢺳冚㓟𠶧冧呍唞唓癦踭𦢊疱肶蠄螆" ++
      "裇膶萜𡃁䓬猄𤜆宐茋𦢓噻𢛴𧴯𤆣𧵳𦻐𧊶酰𡇙鈈𣳼𪚩𠺬𠻹牦𡲢䝎𤿂𧿹𠿫䃺\uFDD0" ++
      "\uFDD0\uFDD0\uFDD0\uFDD0\uFDD0\uFDD0\uFDD0\uFDD0\uFDD0\uFDD0\uFDD0\uFDD0\uFDD0\uFDD0\uFDD0\uFDD0\uFDD0\uFDD0\uFDD0\uFDD0\uFDD0\uFDD0\uFDD0\uFDD0\uFDD0\uFDD0\uFDD0\uFDD0\uFDD0\uFDD0\uFDD0\uFDD0" ++
      "\uFDD0鱝攟𢶠䣳𤟠𩵼𠿬𠸊\uFDD0𧖣𠿭\uFDD0𦁈𡆇熣纎鵐业丄㕷嬍沲卧㚬㧜卽㚥𤘘墚𤭮舭" ++
      "呋垪𥪕𠥹\uFDD0㩒𢑥獴𩺬䴉鯭𣳾𩼰䱛𤾩𩖞𩿞葜𣶶𧊲𦞳𣜠挮紥𣻷𣸬㨪逈勌㹴㙺䗩" ++
      "𠒎癀嫰𠺶硺𧼮墧䂿噼鮋嵴癔𪐴麅䳡\uFDD0㟻愙𣃚𤏲\uFDD0噝𡊩垧𤥣𩸆刴𧂮㖭\uFDD0鵼"⟩,
    ⟨[0x9F], 0x40, "籖鬹埞𡝬屓擓𩓐𦌵𧅤蚭𠴨𦴢𤫢𠵱\uFDD0凾𡼏嶎霃𡷑麁遌笟鬂峑箣扨挵髿篏鬪籾" ++
      "\uFDD0籂粆鰕篼鬉\uFDD0鰛𤤾齚啳寃俽麘俲剠㸆勑坧偖妷帒韈鶫轜呩鞴饀鞺匬愰\uFDD0" ++
      "\uFDD0\uFDD0\uFDD0\uFDD0\uFDD0\uFDD0\uFDD0\uFDD0\uFDD0\uFDD0\uFDD0\uFDD0\uFDD0\uFDD0\uFDD0\uFDD0\uFDD0\uFDD0\uFDD0\uFDD0\uFDD0\uFDD0\uFDD0\uFDD0\uFDD0\uFDD0\uFDD0\uFDD0\uFDD0\uFDD0\uFDD0\uFDD0" ++
      "\uFDD0椬叚鰊鴂䰻陁榀傦畆𡝭駚剳\uFDD0酙隁酜\uFDD0酑𨺗捿𦴣櫊嘑醎畺抅𠏼獏籰𥰡𣳽" ++
      "\uFDD0𤤙盖鮝个𠳔莾衂\uFDD0届槀\uFDD0坺刟巵从氱𠇲伹咜哚劚趂㗾\uFDD0㗳\uFDD0歒酼龥鮗頮" ++
      "颴骺麨麄煺笔\uFDD0毺蠘罸\uFDD0嘠𪙊蹷齓\uFDD0跔蹏鸜踁抂𨍽踨蹵竓𤩷稾磘泪詧瘇"⟩,
    ⟨[0xA0], 0x40, "𨩚鼦泎蟖痃𪊲硓咢贌狢獱謭猂瓱賫𤪻蘯徺袠䒷\uFDD0𡠻𦸅\uFDD0詾𢔛\uFDD0惽癧髗鵄鍮" ++
      "鮏蟵\uFDD0\uFDD0賷猬霡鮰㗖犲䰇籑饊𦅙慙䰄麖慽\uFDD0坟慯抦戹\uFDD0㩜懢厪𣏵捤栂㗒\uFDD0" ++
      "\uFDD0\uFDD0\uFDD0\uFDD0\uFDD0\uFDD0\uFDD0\uFDD0\uFDD0\uFDD0\uFDD0\uFDD0\uFDD0\uFDD0\uFDD0\uFDD0\uFDD0\uFDD0\uFDD0\uFDD0\uFDD0\uFDD0\uFDD0\uFDD0\uFDD0\uFDD0\uFDD0\uFDD0\uFDD0\uFDD0\uFDD0\uFDD0" ++
      "\uFDD0嵗𨯂迚𨸹\uFDD0僙𡵆礆匲阸𠼻䁥\uFDD0矾\uFDD0糂𥼚糚稭聦聣絍甅瓲覔舚朌聢𧒆聛瓰" ++
      "脃眤覉𦟌畓𦻑螩蟎臈螌詉貭譃眫瓸蓚㘵榲趦\uFDD0覩\uFDD0涹蟁𤀑瓧㷛煶悤憜㳑\uFDD0" ++
      "恷\uFDD0罱𨬭\uFDD0惩䭾删㰘𣳇𥻗𧙖𥔱𡥄𡋾𩤃𦷜𧂭峁𦆭𨨏𣙷𠃮𦡆𤼎䕢嬟𦍌齐麦𦉫"⟩,
    ⟨[0xC6], 0x40, "讖艷贛釀鑪靂靈靄韆顰驟鬢魘鱟鷹鷺鹼鹽鼇齷齲廳欖灣籬籮蠻觀躡釁鑲鑰" ++
      "顱饞髖鬣黌灤矚讚鑷韉驢驥纜讜躪釅鑽鑾鑼鱷鱸黷豔鑿鸚爨驪鬱鸛鸞籲\uFDD0" ++
      "\uFDD0\uFDD0\uFDD0\uFDD0\uFDD0\uFDD0\uFDD0\uFDD0\uFDD0\uFDD0\uFDD0\uFDD0\uFDD0\uFDD0\uFDD0\uFDD0\uFDD0\uFDD0\uFDD0\uFDD0\uFDD0\uFDD0\uFDD0\uFDD0\uFDD0\uFDD0\uFDD0\uFDD0\uFDD0\uFDD0\uFDD0\uFDD0" ++
      "\uFDD0①②③④⑤⑥⑦⑧⑨⑩⑴⑵⑶⑷⑸⑹⑺⑻⑼⑽ⅰⅱⅲⅳⅴⅵⅶⅷⅸⅹ丶" ++
      "丿亅亠冂冖冫勹匸卩厶夊宀巛⼳广\uFDD0彐彡攴\uFDD0疒\uFDD0辵\uFDD0¨ˆヽヾゝゞ\uFDD0\uFDD0" ++
      "々〆〇ー［］✽ぁあぃいぅうぇえぉおかがきぎくぐけげこごさざしじ"⟩,
    ⟨[0xC7], 0x40, "すずせぜそぞただちぢっつづてでとどなにぬねのはばぱひびぴふぶぷへ" ++
      "べぺほぼぽまみむめもゃやゅゆょよらりるれろゎわゐゑをんァアィイ\uFDD0" ++
      "\uFDD0\uFDD0\uFDD0\uFDD0\uFDD0\uFDD0\uFDD0\uFDD0\uFDD0\uFDD0\uFDD0\uFDD0\uFDD0\uFDD0\uFDD0\uFDD0\uFDD0\uFDD0\uFDD0\uFDD0\uFDD0\uFDD0\uFDD0\uFDD0\uFDD0\uFDD0\uFDD0\uFDD0\uFDD0\uFDD0\uFDD0\uFDD0" ++
      "\uFDD0ゥウェエォオカガキギクグケゲコゴサザシジスズセゼソゾタダチヂッ" ++
      "ツヅテデトドナニヌネノハバパヒビピフブプヘベペホボポマミムメモャ" ++
      "ヤュユョヨラリルレロヮワヰヱヲンヴヵヶАБВГДЕЁЖЗИЙК"⟩,
    ⟨[0xC8], 0x40, "ЛМНОПРСТУФХЦЧШЩЪЫЬЭЮЯабвгдеёжзий" ++
      "клмнопрстуфхцчшщъыьэюя⇧↸↹㇏𠃌乚𠂊刂䒑\uFDD0" ++
      "\uFDD0\uFDD0\uFDD0\uFDD0\uFDD0\uFDD0\uFDD0\uFDD0\uFDD0\uFDD0\uFDD0\uFDD0\uFDD0\uFDD0\uFDD0\uFDD0\uFDD0\uFDD0\uFDD0\uFDD0\uFDD0\uFDD0\uFDD0\uFDD0\uFDD0\uFDD0\uFDD0\uFDD0\uFDD0\uFDD0\uFDD0\uFDD0" ++
      "\uFDD0龰冈龱𧘇\uFDD0\uFDD0\uFDD0\uFDD0\uFDD0\uFDD0\uFDD0\uFDD0\uFDD0\uFDD0\uFDD0\uFDD0\uFDD0\uFDD0\uFDD0\uFDD0\uFDD0\uFDD0\uFDD0\uFDD0\uFDD0\uFDD0\uFDD0\uFDD0\uFDD0\uFDD0\uFDD0" ++
      "\uFDD0\uFDD0\uFDD0\uFDD0\uFDD0\uFDD0\uFDD0\uFDD0\uFDD0\uFDD0\uFDD0\uFDD0\uFDD0￢￤＇＂㈱№℡゛゜⺀⺄⺆⺇⺈⺊⺌⺍⺕⺜" ++
      "⺝⺥⺧⺪⺬⺮⺶⺼⺾⻆⻊⻌⻍⻏⻖⻗⻞⻣\uFDD0\uFDD0\uFDD0ʃɐɛɔɵœøŋʊɪ"⟩,
    ⟨[0xF9], 0x40, "纘纛纙臠臡虆虇虈襹襺襼襻觿讘讙躥躤躣鑮鑭鑯鑱鑳靉顲饟鱨鱮鱭鸋鸍鸐" ++
      "鸏鸒鸑麡黵鼉齇齸齻齺齹圞灦籯蠼趲躦釃鑴鑸鑶鑵驠鱴鱳鱱鱵鸔鸓黶鼊\uFDD0" ++
      "\uFDD0\uFDD0\uFDD0\uFDD0\uFDD0\uFDD0\uFDD0\uFDD0\uFDD0\uFDD0\uFDD0\uFDD0\uFDD0\uFDD0\uFDD0\uFDD0\uFDD0\uFDD0\uFDD0\uFDD0\uFDD0\uFDD0\uFDD0\uFDD0\uFDD0\uFDD0\uFDD0\uFDD0\uFDD0\uFDD0\uFDD0\uFDD0" ++
      "\uFDD0龤灨灥糷虪蠾蠽蠿讞貜躩軉靋顳顴飌饡馫驤驦驧鬤鸕鸗齈戇欞爧虌躨钂" ++
      "钀钁驩驨鬮鸙爩虋讟钃鱹麷癵驫鱺鸝灩灪麤齾齉龘碁銹裏墻恒粧嫺╔╦╗" ++
      "╠╬╣╚╩╝╒╤╕╞╪╡╘╧╛╓╥╖╟╫╢╙╨╜║═╭╮╰╯￭"⟩,
    ⟨[0xFA], 0x40, "𠕇鋛𠗟𣿅蕌䊵珯况㙉𤥂𨧤鍄𡧛苮𣳈砼杄拟𤤳𨦪𠊠𦮳𡌅侫𢓭倈𦴩𧪄𣘀𤪱𢔓\uFDD0" ++
      "𠍾徤𠎀𠍇滛𠐟\uFDD0儁㑺儎顬㝃萖𤦤𠒇兠𣎴兪𠯿𢃼𠋥𢔰𠖎𣈳𡦃宂蝽𠖳𣲙冲冸\uFDD0" ++
      "\uFDD0\uFDD0\uFDD0\uFDD0\uFDD0\uFDD0\uFDD0\uFDD0\uFDD0\uFDD0\uFDD0\uFDD0\uFDD0\uFDD0\uFDD0\uFDD0\uFDD0\uFDD0\uFDD0\uFDD0\uFDD0\uFDD0\uFDD0\uFDD0\uFDD0\uFDD0\uFDD0\uFDD0\uFDD0\uFDD0\uFDD0\uFDD0" ++
      "\uFDD0鴴凉减凑㳜凓𤪦决凢卂凭菍椾𣜭彻刋刦刼劵剗劔効勅簕蕂勠蘍𦬓\uFDD0𨫞啉" ++
      "滙𣾀𠥔𣿬匳\uFDD0𠯢泋𡜦栛珕恊㺪㣌𡛨燝䒢卭却𨚫卾\uFDD0𡖖𡘓矦厓𨪛厠厫厮玧𥝲" ++
      "㽙玜叁叅汉义埾叙㪫𠮏叠𣿫𢶣叶𠱷吓灹唫晗浛呭𦭓𠵴啝咏咤䞦𡜍𠻝㶴𠵍"⟩,
    ⟨[0xFB], 0x40, "𨦼𢚘啇䳭启琗喆喩\uFDD0𡣗𤀺䕒𤐵暳𡂴嘷曍𣊊暤暭噍噏磱囱鞇叾圀囯园𨭦㘣𡉏" ++
      "坆𤆥汮炋坂㚱𦱾埦𡐖堃𡑔𤍣堦𤯵塜墪㕡壠壜𡈼壻寿坃𪅐𤉸鏓㖡够梦㛃湙\uFDD0" ++
      "\uFDD0\uFDD0\uFDD0\uFDD0\uFDD0\uFDD0\uFDD0\uFDD0\uFDD0\uFDD0\uFDD0\uFDD0\uFDD0\uFDD0\uFDD0\uFDD0\uFDD0\uFDD0\uFDD0\uFDD0\uFDD0\uFDD0\uFDD0\uFDD0\uFDD0\uFDD0\uFDD0\uFDD0\uFDD0\uFDD0\uFDD0\uFDD0" ++
      "\uFDD0𡘾娤啓𡚒蔅姉𠵎𦲁𦴪𡟜姙𡟻𡞲𦶦浱𡠨𡛕姹𦹅媫婣㛦𤦩\uFDD0㜈媖瑥嫓𦾡𢕔㶅" ++
      "𡤑㜲𡚸広勐孶斈孼𧨎䀄䡝𠈄寕慠𡨴𥧌𠖥寳宝䴐尅𡭄尓珎尔𡲥𦬨屉䣝岅峩峯" ++
      "嶋𡷹𡸷崐崘嵆𡺤岺巗苼㠭𤤁𢁉𢅳芇㠶㯂帮檊\uFDD0幺𤒼𠳓厦亷\uFDD0厨𡝱帉廴𨒂"⟩,
    ⟨[0xFC], 0x40, "廹廻㢠廼栾鐛弍𠇁弢㫞䢮𡌺强𦢈𢏐\uFDD0𢑱彣鞽𦹮彲鍀𨨶徧嶶㵟𥉐𡽪𧃸𢙨釖𠊞" ++
      "𨨩怱暅𡡷㥣㷇㘹垐𢞴祱㹀悞\uFDD0悳𤦂𤦏𧩓璤僡媠慤萤慂慈𦻒憁凴𠙖憇宪𣾷\uFDD0" ++
      "\uFDD0\uFDD0\uFDD0\uFDD0\uFDD0\uFDD0\uFDD0\uFDD0\uFDD0\uFDD0\uFDD0\uFDD0\uFDD0\uFDD0\uFDD0\uFDD0\uFDD0\uFDD0\uFDD0\uFDD0\uFDD0\uFDD0\uFDD0\uFDD0\uFDD0\uFDD0\uFDD0\uFDD0\uFDD0\uFDD0\uFDD0\uFDD0" ++
      "\uFDD0𢡟懓𨮝𩥝懐㤲𢦀𢣁怣慜攞掋𠄘担𡝰拕𢸍捬𤧟㨗搸揸𡎎𡟼\uFDD0澊𢸶頔𤂌𥜝擡" ++
      "擥鑻㩦携㩗敍漖𤨨𤨣斅敭敟𣁾斵𤥀䬷旑䃘𡠩无旣忟𣐀昘𣇷𣇸晄𣆤𣆥晋𠹵晧" ++
      "𥇦晳\uFDD0𡸽𣈱𨗴𣇈𥌓矅𢣷馤朂𤎜𤨡㬫槺𣟂\uFDD0杧杢𤇍𩃭柗䓩栢湐鈼栁𣏦𦶠桝"⟩,
    ⟨[0xFD], 0x40, "𣑯槡樋𨫟楳棃𣗍椁椀㴲㨁𣘼㮀枬楡𨩊䋼椶榘㮡𠏉荣傐槹𣙙𢄪橅𣜃檝㯳枱櫈" ++
      "𩆜㰍欝𠤣惞欵歴𢟍溵𣫛𠎵𡥘㝀吡𣭚毡𣻼毜氷𢒋𤣱𦭑汚舦汹𣶼䓅𣶽𤆤𤤌𤤀\uFDD0" ++
      "\uFDD0\uFDD0\uFDD0\uFDD0\uFDD0\uFDD0\uFDD0\uFDD0\uFDD0\uFDD0\uFDD0\uFDD0\uFDD0\uFDD0\uFDD0\uFDD0\uFDD0\uFDD0\uFDD0\uFDD0\uFDD0\uFDD0\uFDD0\uFDD0\uFDD0\uFDD0\uFDD0\uFDD0\uFDD0\uFDD0\uFDD0\uFDD0" ++
      "\uFDD0𣳉㛥㳫𠴲鮃𣇹𢒑羏样𦴥𦶡𦷫涖浜湼漄𤥿𤂅𦹲蔳𦽴凇\uFDD0\uFDD0萮𨬡\uFDD0𣸯瑓𣾂秌" ++
      "湏媑𣁋濸㜍澝𣸰滺𡒗𤀽䕕鏰潄潜㵎潴𩅰㴻澟𤅄濓𤂑𤅕𤀹𣿰𣾴𤄿凟𤅖𤅗𤅀𦇝" ++
      "灋灾炧炁烌烕烖烟䄄㷨熴熖𤉷焫煅媈煊\uFDD0岜𤍥煏鍢𤋁焬𤑚𤨧𤨢熺𨯨炽爎"⟩,
    ⟨[0xFE], 0x40, "鑂爕夑鑃爤鍁𥘅爮牀𤥴梽牕牗㹕𣁄栍漽犂\uFDD0猫𤠣𨠫䣭𨠄猨献珏玪𠰺𦨮珉瑉" ++
      "𤇢𡛧𤨤昣㛅𤦷𤦍𤧻珷琕椃𤨦琹𠗃㻗\uFDD0𢢭瑠𨺲瑇珤瑶莹瑬㜰瑴鏱樬璂䥓𤪌\uFDD0" ++
      "\uFDD0\uFDD0\uFDD0\uFDD0\uFDD0\uFDD0\uFDD0\uFDD0\uFDD0\uFDD0\uFDD0\uFDD0\uFDD0\uFDD0\uFDD0\uFDD0\uFDD0\uFDD0\uFDD0\uFDD0\uFDD0\uFDD0\uFDD0\uFDD0\uFDD0\uFDD0\uFDD0\uFDD0\uFDD0\uFDD0\uFDD0\uFDD0" ++
      "\uFDD0𤅟𤩹𨮏孆𨰃𡢞瓈𡦈甎\uFDD0甞𨻙𡩋寗𨺬鎅畍畊畧畮𤾂㼄𤴓疎瑝疞疴瘂瘬癑癏" ++
      "癯癶𦏵皐臯㟸𦤑𦤎皡皥皷盌𦾟葢𥂝𥅽𡸜眞眦着撯𥈠睘𣊬瞯𨥤𨥨𡛁矴\uFDD0𡍶𤨒" ++
      "棊碯磇磓隥礮𥗠磗礴碱𧘌辸袄𨬫𦂃𢘜禆褀椂禀𥡗禝𧬹礼禩渪𧄦㺨秆𩄍秔"⟩] [([0x88, 0x62], ['Ê', '\u0304']), ([0x88, 0x64], ['Ê', '\u030C']), ([0x88, 0xA3], ['ê', '\u0304']), ([0x88, 0xA5], ['ê', '\u030C'])]

end PrefixCode

end ByteAsm
